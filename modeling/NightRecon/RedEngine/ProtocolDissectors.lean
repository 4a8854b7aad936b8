import NightRecon.Exceptions
import NightRecon.Lib.Json
import NightRecon.Lib.Sha256

/-!
# Protocol metadata

`nightrecon_red_engine/protocol_dissectors.py`: what a payload shows of the protocol it belongs to.

* `ProtocolMetadata`, `fieldPairs` — a protocol with its nonempty fields, by key;
* `dissectHttp`, `dissectSsh`, `dissectSmb`, `dissectDnsPayload` — the dissectors that never raise;
* `tlsOutline`, `dissectTlsClientHello` — a TLS record, and the metadata of a client hello;
* `hostNames` — the server names of a client hello; `dissectPayload_ok_iff` — the dissection
  succeeds on the payloads without one.

`upper` is the case mapping `str.upper`.
-/

namespace NightRecon.RedEngine.ProtocolDissectors

open NightRecon.Lib
open NightRecon.Lib.Checks
open NightRecon.Lib.Text

/-- Source: `protocol_dissectors.py` `ProtocolMetadata`. -/
structure ProtocolMetadata where
  protocol : String
  fields : List (String × String)
  confidence : String
  deriving DecidableEq

/-- Source: `protocol_dissectors.py` `_field_pairs`. -/
def fieldPairs (values : List (String × String)) : List (String × String) :=
  sortedBy Prod.fst (values.filter fun v => v.2 ≠ "")

/-! ## Bytes -/

/-- `payload[start:start + count]`. -/
def slice (payload : List UInt8) (start count : Nat) : List UInt8 :=
  (payload.drop start).take count

/-- `int.from_bytes(data, "big")`. -/
def bigEndian (data : List UInt8) : Nat := data.foldl (fun n b => 256 * n + b.toNat) 0

/-- `int.from_bytes(data, "little")`. -/
def littleEndian (data : List UInt8) : Nat := bigEndian data.reverse

/-- `payload[i]`, of a byte that is there. -/
def byteAt (payload : List UInt8) (i : Nat) : Nat := (payload.getD i 0).toNat

/-- `data.decode("latin-1")`. -/
def latin1 (data : List UInt8) : List Char := data.map fun b => Char.ofNat b.toNat

/-- `data.decode("ascii", "replace")`. -/
def asciiReplace (data : List UInt8) : List Char :=
  data.map fun b => if b < 128 then Char.ofNat b.toNat else Char.ofNat 0xfffd

/-- `f"0x{n:04x}"` of a number of two bytes. -/
def hex4 (n : Nat) : String :=
  String.ofList ('0' :: 'x' :: [n / 4096, n / 256 % 16, n / 16 % 16, n % 16].map Json.hexDigit)

/-! ## Text protocols -/

/-- `text.split()`. -/
def words (text : List Char) : List (List Char) := (text.splitOnP isSpace).filter (· ≠ [])

/-- `payload.split(b"\r\n", 1)[0]`. -/
def firstLine : List UInt8 → List UInt8
  | 13 :: 10 :: _ => []
  | b :: rest => b :: firstLine rest
  | [] => []

def httpMethods : List String :=
  ["GET", "POST", "HEAD", "PUT", "DELETE", "OPTIONS", "PATCH", "CONNECT"]

/-- The text of the `n`-th word, or the default. -/
def wordAt (parts : List (List Char)) (n : Nat) (default : String) : String :=
  (parts[n]?).elim default String.ofList

/-- Source: `protocol_dissectors.py` `dissect_http`. -/
def dissectHttp (upper : String → String) (payload : List UInt8) : Option ProtocolMetadata :=
  let text := latin1 ((firstLine payload).take 2048)
  let parts := words text
  let method := upper (wordAt parts 0 "")
  if parts ≠ [] ∧ method ∈ httpMethods then
    let path := (wordAt parts 1 "/").toList.takeWhile (· ≠ '?')
    some ⟨"http", fieldPairs [("message_type", "request"), ("method", method),
      ("path", String.ofList (path.take 512)), ("version", wordAt parts 2 "")], "high"⟩
  else if "HTTP/".toList <+: text ∧ 2 ≤ parts.length then
    some ⟨"http", fieldPairs [("message_type", "response"), ("version", wordAt parts 0 ""),
      ("status", wordAt parts 1 "")], "high"⟩
  else none

/-- `text.split("-", n)`. -/
def splitDashes : Nat → List Char → List (List Char)
  | 0, text => [text]
  | n + 1, text =>
      match text.dropWhile (· ≠ '-') with
      | [] => [text]
      | _ :: rest => text.takeWhile (· ≠ '-') :: splitDashes n rest

/-- Source: `protocol_dissectors.py` `dissect_ssh`. -/
def dissectSsh (payload : List UInt8) : Option ProtocolMetadata :=
  if [83, 83, 72, 45] <+: payload then
    let line := payload.takeWhile fun b => b ≠ 10 ∧ b ≠ 13
    let banner := asciiReplace (line.take 255)
    let parts := splitDashes 2 banner
    some ⟨"ssh", fieldPairs [("banner_sha256", Sha256.hexOf banner),
      ("protocol_version", wordAt parts 1 ""), ("software", wordAt parts 2 "")], "high"⟩
  else none

/-! ## Binary protocols -/

/-- Source: `protocol_dissectors.py` `dissect_smb`. -/
def dissectSmb (payload : List UInt8) : Option ProtocolMetadata :=
  if [0xfe, 83, 77, 66] <+: payload ∧ 16 ≤ payload.length then
    some ⟨"smb2", fieldPairs [("dialect_family", "SMB2/3"),
      ("command", toString (littleEndian (slice payload 12 2)))], "high"⟩
  else if [0xff, 83, 77, 66] <+: payload ∧ 5 ≤ payload.length then
    some ⟨"smb1", fieldPairs [("dialect_family", "SMB1"),
      ("command", toString (byteAt payload 4))], "high"⟩
  else none

/-- `str` of a truth value. -/
def boolText (b : Bool) : String := if b then "True" else "False"

/-- Source: `protocol_dissectors.py` `dissect_dns_payload`. -/
def dissectDnsPayload (payload : List UInt8) : Option ProtocolMetadata :=
  if payload.length < 12 then none
  else
    let flags := bigEndian (slice payload 2 2)
    some ⟨"dns", fieldPairs [("transaction_id", hex4 (bigEndian (slice payload 0 2))),
      ("response", boolText (flags &&& 0x8000 ≠ 0)), ("rcode", toString (flags &&& 0xf)),
      ("questions", toString (bigEndian (slice payload 4 2))),
      ("answers", toString (bigEndian (slice payload 6 2)))], "medium"⟩

/-! ## TLS -/

/-- One extension of a client hello. -/
structure Extension where
  extType : Nat
  data : List UInt8
  deriving DecidableEq

/-- The loop over the extensions, from `pos` to `stop`; a cut extension ends it. -/
def extensions (body : List UInt8) (stop : Nat) : Nat → Nat → List Extension
  | 0, _ => []
  | fuel + 1, pos =>
      if stop < pos + 4 then []
      else
        let extLen := bigEndian (slice body (pos + 2) 2)
        let ext := slice body (pos + 4) extLen
        if ext.length ≠ extLen then []
        else ⟨bigEndian (slice body pos 2), ext⟩ :: extensions body stop fuel (pos + 4 + extLen)

/-- What a payload is, read as a TLS record. -/
inductive TlsOutline where
  | other
  | truncated
  | handshake (handshakeType : Nat)
  | malformed
  | bare
  | hello (extensions : List Extension)
  deriving DecidableEq

/-- The outline of a client hello's body. -/
def helloOutline (body : List UInt8) : TlsOutline :=
  if body.length ≤ 34 then .malformed
  else
    let pos := 34 + 1 + byteAt body 34
    if body.length < pos + 2 then .malformed
    else
      let pos := pos + 2 + bigEndian (slice body pos 2)
      if body.length ≤ pos then .malformed
      else
        let pos := pos + 1 + byteAt body pos
        if body.length < pos + 2 then .bare
        else
          let stop := min body.length (pos + 2 + bigEndian (slice body pos 2))
          .hello (extensions body stop body.length (pos + 2))

/-- The outline of a payload. -/
def tlsOutline (payload : List UInt8) : TlsOutline :=
  let recordLength := bigEndian (slice payload 3 2)
  if payload.length < 9 ∨ byteAt payload 0 ≠ 0x16 then .other
  else if payload.length < recordLength + 5 then .truncated
  else if byteAt payload 5 ≠ 0x01 then .handshake (byteAt payload 5)
  else helloOutline ((payload.take (5 + recordLength)).drop 9)

/-- The first nonempty host name in the list of a server-name extension. -/
def hostNameFrom (ext : List UInt8) (stop : Nat) : Nat → Nat → Option (List UInt8)
  | 0, _ => none
  | fuel + 1, cursor =>
      if stop < cursor + 3 then none
      else
        let nameLen := bigEndian (slice ext (cursor + 1) 2)
        let name := slice ext (cursor + 3) nameLen
        if byteAt ext cursor = 0 ∧ name ≠ [] then some name
        else hostNameFrom ext stop fuel (cursor + 3 + nameLen)

/-- The host name of a server-name extension. -/
def hostName (e : Extension) : Option (List UInt8) :=
  if e.extType = 0 ∧ 5 ≤ e.data.length then
    hostNameFrom e.data (min e.data.length (2 + bigEndian (slice e.data 0 2))) e.data.length 2
  else none

/-- The protocol names of an application-layer extension. -/
def alpnFrom (ext : List UInt8) (stop : Nat) : Nat → Nat → List String
  | 0, _ => []
  | fuel + 1, cursor =>
      if stop ≤ cursor then []
      else
        let size := byteAt ext cursor
        let value := slice ext (cursor + 1) size
        (if value ≠ [] then [String.ofList ((asciiReplace value).take 64)] else []) ++
          alpnFrom ext stop fuel (cursor + 1 + size)

def alpnNames (e : Extension) : List String :=
  if e.extType = 16 ∧ 3 ≤ e.data.length then
    alpnFrom e.data (min e.data.length (2 + bigEndian (slice e.data 0 2))) e.data.length 2
  else []

/-- The versions of a supported-versions extension. -/
def supportedVersions (e : Extension) : List String :=
  if e.extType = 43 ∧ 3 ≤ e.data.length then
    let stop := min e.data.length (1 + byteAt e.data 0)
    ((List.range (stop / 2)).map fun i => 2 * i + 1).filterMap fun cursor =>
      if cursor + 1 < e.data.length then some (hex4 (bigEndian (slice e.data cursor 2))) else none
  else []

/-- `name.decode("idna", "replace")`: the codec refuses every error handler but `strict`. -/
def idnaReplace (_name : List UInt8) : Py String :=
  .error (valueError
    "decoding with 'idna' codec failed (UnicodeError: Unsupported error handling replace)")

/-- Source: `protocol_dissectors.py` `dissect_tls_client_hello`. -/
def dissectTlsClientHello (payload : List UInt8) : Py (Option ProtocolMetadata) :=
  let version := toString (byteAt payload 1) ++ "." ++ toString (byteAt payload 2)
  match tlsOutline payload with
  | .other | .malformed => .ok none
  | .truncated => .ok (some ⟨"tls", fieldPairs [("record_type", "handshake"),
      ("record_version", version), ("truncated", "true")], "medium"⟩)
  | .handshake handshakeType => .ok (some ⟨"tls", fieldPairs [("record_type", "handshake"),
      ("record_version", version), ("handshake_type", toString handshakeType)], "medium"⟩)
  | .bare => .ok (some ⟨"tls", fieldPairs [("record_version", version),
      ("handshake", "client-hello")], "high"⟩)
  | .hello exts => do
      let names ← (exts.filterMap hostName).mapM idnaReplace
      let sni := (names.getLast?).elim "" fun name => String.ofList (name.toList.take 253)
      return some ⟨"tls", fieldPairs [("record_version", version), ("handshake", "client-hello"),
        ("sni", sni), ("alpn", ",".intercalate (exts.flatMap alpnNames)),
        ("supported_versions", ",".intercalate (exts.flatMap supportedVersions))], "high"⟩

/-- Source: `protocol_dissectors.py` `dissect_payload`. -/
def dissectPayload (upper : String → String) (payload : List UInt8) (srcPort dstPort : Option Int) :
    Py (Option ProtocolMetadata) := do
  let tls ← dissectTlsClientHello payload
  return tls <|> dissectHttp upper payload <|> dissectSsh payload <|> dissectSmb payload <|>
    if some 53 ∈ [srcPort, dstPort] then dissectDnsPayload payload else none

/-! ## Payloads with a server name -/

/-- The host names of the server-name extensions of a client hello. -/
def hostNames (payload : List UInt8) : List (List UInt8) :=
  match tlsOutline payload with
  | .hello exts => exts.filterMap hostName
  | _ => []

theorem mapM_idnaReplace {names : List (List UInt8)} {texts : List String} :
    names.mapM idnaReplace = .ok texts ↔ names = [] ∧ texts = [] := by
  cases names with
  | nil => simp [eq_comm]
  | cons name names => simp [idnaReplace]

/-- **A client hello is dissected when it names no server.** -/
theorem dissectTlsClientHello_ok_iff (payload : List UInt8) :
    (∃ m, dissectTlsClientHello payload = .ok m) ↔ hostNames payload = [] := by
  unfold dissectTlsClientHello hostNames
  cases tlsOutline payload with
  | hello exts =>
    constructor
    · rintro ⟨m, hm⟩
      obtain ⟨names, hnames, -⟩ := bind_eq_ok.mp hm
      exact (mapM_idnaReplace.mp hnames).1
    · intro hnone
      dsimp only at hnone ⊢
      rw [hnone]
      exact ⟨_, rfl⟩
  | other => exact iff_of_true ⟨_, rfl⟩ rfl
  | truncated => exact iff_of_true ⟨_, rfl⟩ rfl
  | handshake handshakeType => exact iff_of_true ⟨_, rfl⟩ rfl
  | malformed => exact iff_of_true ⟨_, rfl⟩ rfl
  | bare => exact iff_of_true ⟨_, rfl⟩ rfl

/-- **A payload is dissected when it names no server.** -/
theorem dissectPayload_ok_iff (upper : String → String) (payload : List UInt8)
    (srcPort dstPort : Option Int) :
    (∃ m, dissectPayload upper payload srcPort dstPort = .ok m) ↔ hostNames payload = [] := by
  rw [← dissectTlsClientHello_ok_iff]
  constructor
  · rintro ⟨m, hm⟩
    obtain ⟨tls, htls, -⟩ := bind_eq_ok.mp hm
    exact ⟨tls, htls⟩
  · rintro ⟨tls, htls⟩
    rw [dissectPayload, htls]
    exact ⟨_, rfl⟩

end NightRecon.RedEngine.ProtocolDissectors
