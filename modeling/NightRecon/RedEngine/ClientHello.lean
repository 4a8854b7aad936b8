import NightRecon.Lib.Bytes
import NightRecon.RedEngine.ProtocolDissectors

/-!
# Client hellos

`dissect_tls_client_hello` of `nightrecon_red_engine/protocol_dissectors.py`, with every index it
reads, and the records it is meant for.

* `dissectTlsClientHelloIndexed` — the dissector, where an index outside the data raises;
  `dissectTlsClientHelloIndexed_eq` — none does, so it is `dissectTlsClientHello`;
* `ClientHello`, `record` — a well-formed client hello and its bytes;
* `tlsOutline_record` — the dissector reads its extensions back; `hostNames_record` — it meets a
  server name among them;
* `dissects_iff` — when the dissection is all it is meant to be.
-/

namespace NightRecon.RedEngine.ProtocolDissectors

open NightRecon.Lib
open NightRecon.Lib.Bytes
open NightRecon.Lib.Checks
open NightRecon.Lib.Text

/-! ## The dissector with its indices -/

/-- `payload[i]` of a byte string. -/
def payloadIndex (payload : List UInt8) (i : Nat) : Py Nat :=
  getOrRaise (payload[i]?.map UInt8.toNat) ⟨.indexError, "index out of range"⟩

/-- `view[i]` of a view of a byte string. -/
def viewIndex (view : List UInt8) (i : Nat) : Py Nat :=
  getOrRaise (view[i]?.map UInt8.toNat) ⟨.indexError, "index out of bounds on dimension 1"⟩

/-- The loop over the names of a server-name extension, from `cursor`. -/
def readNames (ext : List UInt8) (listEnd cursor : Nat) (sni : String) : Py String :=
  if cursor + 3 ≤ listEnd then do
    let nameType ← viewIndex ext cursor
    let nameLen := bigEndian (slice ext (cursor + 1) 2)
    let name := slice ext (cursor + 3) nameLen
    if nameType = 0 ∧ name ≠ [] then do
      let text ← idnaReplace name
      return String.ofList (text.toList.take 253)
    else readNames ext listEnd (cursor + 3 + nameLen) sni
  else return sni
termination_by listEnd - cursor

/-- The loop over the names of an application-layer extension, from `cursor`. -/
def readAlpn (ext : List UInt8) (listEnd cursor : Nat) (alpn : List String) : Py (List String) :=
  if cursor < listEnd then do
    let size ← viewIndex ext cursor
    let value := slice ext (cursor + 1) size
    readAlpn ext listEnd (cursor + 1 + size)
      (if value ≠ [] then alpn ++ [String.ofList ((asciiReplace value).take 64)] else alpn)
  else return alpn
termination_by listEnd - cursor

/-- What the loop over the extensions has found. -/
structure Found where
  sni : String
  alpn : List String
  supportedVersions : List String

/-- The branches of the loop over the extensions. -/
def readExtension (extType : Nat) (ext : List UInt8) (found : Found) : Py Found :=
  if extType = 0 ∧ 5 ≤ ext.length then do
    let listLen := bigEndian (slice ext 0 2)
    let sni ← readNames ext (min ext.length (2 + listLen)) 2 found.sni
    return { found with sni := sni }
  else if extType = 16 ∧ 3 ≤ ext.length then do
    let listLen := bigEndian (slice ext 0 2)
    let alpn ← readAlpn ext (min ext.length (2 + listLen)) 2 found.alpn
    return { found with alpn := alpn }
  else if extType = 43 ∧ 3 ≤ ext.length then do
    let size ← viewIndex ext 0
    let versions := ((List.range (min ext.length (1 + size) / 2)).map fun i => 2 * i + 1).filterMap
      fun cursor =>
        if cursor + 1 < ext.length then some (hex4 (bigEndian (slice ext cursor 2))) else none
    return { found with supportedVersions := found.supportedVersions ++ versions }
  else return found

/-- The loop over the extensions, from `pos`. -/
def readExtensions (body : List UInt8) (stop pos : Nat) (found : Found) : Py Found :=
  if pos + 4 ≤ stop then do
    let extType := bigEndian (slice body pos 2)
    let extLen := bigEndian (slice body (pos + 2) 2)
    let ext := slice body (pos + 4) extLen
    if ext.length ≠ extLen then return found
    else do
      let found ← readExtension extType ext found
      readExtensions body stop (pos + 4 + extLen) found
  else return found
termination_by stop - pos

/-- The part of the dissector behind the handshake header. -/
def dissectHelloBody (version : String) (body : List UInt8) : Py (Option ProtocolMetadata) :=
  if body.length < 34 then return none
  else if body.length ≤ 34 then return none
  else do
    let sessionLen ← viewIndex body 34
    let pos := 34 + 1 + sessionLen
    if body.length < pos + 2 then return none
    else
      let pos := pos + 2 + bigEndian (slice body pos 2)
      if body.length ≤ pos then return none
      else do
        let compressionLen ← viewIndex body pos
        let pos := pos + 1 + compressionLen
        if body.length < pos + 2 then
          return some ⟨"tls", fieldPairs [("record_version", version),
            ("handshake", "client-hello")], "high"⟩
        else do
          let extensionsLen := bigEndian (slice body pos 2)
          let found ← readExtensions body (min body.length (pos + 2 + extensionsLen)) (pos + 2)
            ⟨"", [], []⟩
          return some ⟨"tls", fieldPairs [("record_version", version),
            ("handshake", "client-hello"), ("sni", found.sni),
            ("alpn", ",".intercalate found.alpn),
            ("supported_versions", ",".intercalate found.supportedVersions)], "high"⟩

/-- Source: `protocol_dissectors.py` `dissect_tls_client_hello`. -/
def dissectTlsClientHelloIndexed (payload : List UInt8) : Py (Option ProtocolMetadata) :=
  if payload.length < 9 then return none
  else do
    let contentType ← payloadIndex payload 0
    if contentType ≠ 0x16 then return none
    else do
      let major ← payloadIndex payload 1
      let minor ← payloadIndex payload 2
      let version := toString major ++ "." ++ toString minor
      let recordLength := bigEndian (slice payload 3 2)
      if payload.length < recordLength + 5 then
        return some ⟨"tls", fieldPairs [("record_type", "handshake"), ("record_version", version),
          ("truncated", "true")], "medium"⟩
      else do
        let handshakeType ← payloadIndex payload 5
        if handshakeType ≠ 0x01 then
          return some ⟨"tls", fieldPairs [("record_type", "handshake"),
            ("record_version", version), ("handshake_type", toString handshakeType)], "medium"⟩
        else dissectHelloBody version ((payload.take (5 + recordLength)).drop 9)

/-! ## No index is outside the data -/

theorem payloadIndex_of_lt {payload : List UInt8} {i : Nat} (h : i < payload.length) :
    payloadIndex payload i = .ok (byteAt payload i) := by
  rw [payloadIndex, byteAt, List.getD_eq_getElem _ _ h, List.getElem?_eq_getElem h, Option.map_some,
    getOrRaise_some]

theorem viewIndex_of_lt {view : List UInt8} {i : Nat} (h : i < view.length) :
    viewIndex view i = .ok (byteAt view i) := by
  rw [viewIndex, byteAt, List.getD_eq_getElem _ _ h, List.getElem?_eq_getElem h, Option.map_some,
    getOrRaise_some]

/-- The first 253 characters of a decoded name. -/
def clip (text : String) : String := String.ofList (text.toList.take 253)

/-- **The names of an extension**: the loop decodes the first host name. -/
theorem readNames_eq {ext : List UInt8} {listEnd : Nat} (hend : listEnd ≤ ext.length)
    {fuel cursor : Nat} (hfuel : listEnd ≤ cursor + fuel) (sni : String) :
    readNames ext listEnd cursor sni = match hostNameFrom ext listEnd fuel cursor with
      | none => .ok sni
      | some name => (idnaReplace name).map clip := by
  induction fuel generalizing cursor with
  | zero =>
    rw [readNames, if_neg (by omega), hostNameFrom]
    rfl
  | succ fuel ih =>
    rw [readNames, hostNameFrom]
    by_cases hstop : listEnd < cursor + 3
    · rw [if_neg (by omega), if_pos hstop]
      rfl
    rw [if_pos (by omega), if_neg hstop, viewIndex_of_lt (by omega), ok_bind]
    dsimp only
    by_cases hname : byteAt ext cursor = 0 ∧
        slice ext (cursor + 3) (bigEndian (slice ext (cursor + 1) 2)) ≠ []
    · rw [if_pos hname, if_pos hname]
      rfl
    · rw [if_neg hname, if_neg hname]
      exact ih (by omega)

theorem readAlpn_eq {ext : List UInt8} {listEnd : Nat} (hend : listEnd ≤ ext.length)
    {fuel cursor : Nat} (hfuel : listEnd ≤ cursor + fuel) (alpn : List String) :
    readAlpn ext listEnd cursor alpn = .ok (alpn ++ alpnFrom ext listEnd fuel cursor) := by
  induction fuel generalizing cursor alpn with
  | zero =>
    rw [readAlpn, if_neg (by omega), alpnFrom, List.append_nil]
    rfl
  | succ fuel ih =>
    rw [readAlpn, alpnFrom]
    by_cases hstop : listEnd ≤ cursor
    · rw [if_neg (by omega), if_pos hstop, List.append_nil]
      rfl
    rw [if_pos (by omega), if_neg hstop, viewIndex_of_lt (by omega), ok_bind]
    dsimp only
    rw [ih (by omega)]
    by_cases hvalue : slice ext (cursor + 1) (byteAt ext cursor) ≠ []
    · rw [if_pos hvalue, if_pos hvalue, List.append_assoc]
    · rw [if_neg hvalue, if_neg hvalue, List.nil_append]

/-- What the loop makes of one extension. -/
def addExtension (found : Found) (e : Extension) : Found :=
  { found with
    alpn := found.alpn ++ alpnNames e
    supportedVersions := found.supportedVersions ++ supportedVersions e }

/-- **One extension**: a host name in it is decoded, and the rest of it is added. -/
theorem readExtension_eq (e : Extension) (found : Found) :
    readExtension e.extType e.data found = match hostName e with
      | none => .ok (addExtension found e)
      | some name => (idnaReplace name).map fun text => { found with sni := clip text } := by
  unfold readExtension hostName addExtension alpnNames supportedVersions
  by_cases hsni : e.extType = 0 ∧ 5 ≤ e.data.length
  · rw [if_pos hsni, if_pos hsni, if_neg (by omega), if_neg (by omega)]
    dsimp only
    rw [readNames_eq (Nat.min_le_left _ _) (Nat.min_le_left _ _ |>.trans (Nat.le_add_left _ _))]
    cases hostNameFrom e.data (min e.data.length (2 + bigEndian (slice e.data 0 2)))
        e.data.length 2 with
    | none => rw [ok_bind, List.append_nil, List.append_nil, pure_eq_ok]
    | some name => rfl
  rw [if_neg hsni, if_neg hsni]
  by_cases halpn : e.extType = 16 ∧ 3 ≤ e.data.length
  · rw [if_pos halpn, if_pos halpn, if_neg (by omega)]
    dsimp only
    rw [readAlpn_eq (Nat.min_le_left _ _) (Nat.min_le_left _ _ |>.trans (Nat.le_add_left _ _)),
      ok_bind, List.append_nil, pure_eq_ok]
  rw [if_neg halpn, if_neg halpn]
  by_cases hversions : e.extType = 43 ∧ 3 ≤ e.data.length
  · rw [if_pos hversions, if_pos hversions, viewIndex_of_lt (by omega), ok_bind, List.append_nil,
      pure_eq_ok]
  · rw [if_neg hversions, if_neg hversions, List.append_nil, List.append_nil, pure_eq_ok]

/-- **All extensions**: the loop raises on the first host name. -/
theorem readExtensions_eq {body : List UInt8} {stop fuel pos : Nat} (hfuel : stop ≤ pos + fuel)
    (found : Found) :
    readExtensions body stop pos found = do
      let names ← ((extensions body stop fuel pos).filterMap hostName).mapM idnaReplace
      return (extensions body stop fuel pos).foldl addExtension
        { found with sni := names.getLast?.elim found.sni clip } := by
  induction fuel generalizing pos found with
  | zero =>
    rw [readExtensions, if_neg (by omega), extensions]
    rfl
  | succ fuel ih =>
    rw [readExtensions, extensions]
    by_cases hstop : stop < pos + 4
    · rw [if_neg (by omega), if_pos hstop]
      rfl
    rw [if_pos (by omega), if_neg hstop]
    dsimp only
    by_cases hcut : (slice body (pos + 4) (bigEndian (slice body (pos + 2) 2))).length ≠
        bigEndian (slice body (pos + 2) 2)
    · rw [if_pos hcut, if_pos hcut]
      rfl
    rw [if_neg hcut, if_neg hcut]
    have hone := readExtension_eq ⟨bigEndian (slice body pos 2),
      slice body (pos + 4) (bigEndian (slice body (pos + 2) 2))⟩ found
    dsimp only at hone
    rw [hone]
    cases hname : hostName ⟨bigEndian (slice body pos 2),
        slice body (pos + 4) (bigEndian (slice body (pos + 2) 2))⟩ with
    | none =>
      rw [ok_bind, ih (by omega), List.filterMap_cons_none hname]
      rfl
    | some name =>
      rw [List.filterMap_cons_some hname, List.mapM_cons]
      rfl

theorem foldl_add (exts : List Extension) (found : Found) :
    exts.foldl addExtension found = { found with
      alpn := found.alpn ++ exts.flatMap alpnNames
      supportedVersions := found.supportedVersions ++ exts.flatMap supportedVersions } := by
  induction exts generalizing found with
  | nil => rw [List.foldl_nil, List.flatMap_nil, List.flatMap_nil, List.append_nil, List.append_nil]
  | cons e exts ih =>
    rw [List.foldl_cons, ih, List.flatMap_cons, List.flatMap_cons]
    simp only [addExtension, List.append_assoc]

/-- The metadata of an outline. -/
def outlineMetadata (version : String) : TlsOutline → Py (Option ProtocolMetadata)
  | .other | .malformed => .ok none
  | .truncated => .ok (some ⟨"tls", fieldPairs [("record_type", "handshake"),
      ("record_version", version), ("truncated", "true")], "medium"⟩)
  | .handshake handshakeType => .ok (some ⟨"tls", fieldPairs [("record_type", "handshake"),
      ("record_version", version), ("handshake_type", toString handshakeType)], "medium"⟩)
  | .bare => .ok (some ⟨"tls", fieldPairs [("record_version", version),
      ("handshake", "client-hello")], "high"⟩)
  | .hello exts => do
      let names ← (exts.filterMap hostName).mapM idnaReplace
      let sni := (names.getLast?).elim "" clip
      return some ⟨"tls", fieldPairs [("record_version", version), ("handshake", "client-hello"),
        ("sni", sni), ("alpn", ",".intercalate (exts.flatMap alpnNames)),
        ("supported_versions", ",".intercalate (exts.flatMap supportedVersions))], "high"⟩

theorem dissectTlsClientHello_eq (payload : List UInt8) :
    dissectTlsClientHello payload = outlineMetadata
      (toString (byteAt payload 1) ++ "." ++ toString (byteAt payload 2)) (tlsOutline payload) := by
  unfold dissectTlsClientHello outlineMetadata
  cases tlsOutline payload with
  | hello exts => rfl
  | other => rfl
  | truncated => rfl
  | handshake handshakeType => rfl
  | malformed => rfl
  | bare => rfl

theorem dissectHelloBody_eq (version : String) (body : List UInt8) :
    dissectHelloBody version body = outlineMetadata version (helloOutline body) := by
  unfold dissectHelloBody helloOutline
  by_cases hshort : body.length < 34
  · rw [if_pos hshort, if_pos (by omega)]
    rfl
  rw [if_neg hshort]
  by_cases hsession : body.length ≤ 34
  · rw [if_pos hsession, if_pos hsession]
    rfl
  rw [if_neg hsession, if_neg hsession, viewIndex_of_lt (by omega), ok_bind]
  dsimp only
  generalize 34 + 1 + byteAt body 34 = ciphers
  by_cases hciphers : body.length < ciphers + 2
  · rw [if_pos hciphers, if_pos hciphers]
    rfl
  rw [if_neg hciphers, if_neg hciphers]
  generalize ciphers + 2 + bigEndian (slice body ciphers 2) = compression
  by_cases hcompression : body.length ≤ compression
  · rw [if_pos hcompression, if_pos hcompression]
    rfl
  rw [if_neg hcompression, if_neg hcompression, viewIndex_of_lt (by omega), ok_bind]
  generalize compression + 1 + byteAt body compression = pos
  by_cases hbare : body.length < pos + 2
  · rw [if_pos hbare, if_pos hbare]
    rfl
  rw [if_neg hbare, if_neg hbare, outlineMetadata,
    readExtensions_eq (Nat.min_le_left _ _ |>.trans (Nat.le_add_left _ _))]
  generalize extensions body (min body.length (pos + 2 + bigEndian (slice body pos 2)))
    body.length (pos + 2) = exts
  cases (exts.filterMap hostName).mapM idnaReplace with
  | error e => rfl
  | ok names =>
    rw [ok_bind, ok_bind, pure_eq_ok, ok_bind, foldl_add]
    rfl

/-- **No index is outside the data**, so the dissector is `dissectTlsClientHello`. -/
theorem dissectTlsClientHelloIndexed_eq (payload : List UInt8) :
    dissectTlsClientHelloIndexed payload = dissectTlsClientHello payload := by
  rw [dissectTlsClientHello_eq]
  unfold dissectTlsClientHelloIndexed tlsOutline
  by_cases hshort : payload.length < 9
  · rw [if_pos hshort, if_pos (.inl hshort)]
    rfl
  rw [if_neg hshort, payloadIndex_of_lt (by omega), ok_bind]
  by_cases htype : byteAt payload 0 ≠ 0x16
  · rw [if_pos htype, if_pos (.inr htype)]
    rfl
  rw [if_neg htype, if_neg (not_or.mpr ⟨hshort, htype⟩), payloadIndex_of_lt (by omega), ok_bind,
    payloadIndex_of_lt (by omega), ok_bind]
  dsimp only
  by_cases htruncated : payload.length < bigEndian (slice payload 3 2) + 5
  · rw [if_pos htruncated, if_pos htruncated]
    rfl
  rw [if_neg htruncated, if_neg htruncated, payloadIndex_of_lt (by omega), ok_bind]
  by_cases hhello : byteAt payload 5 ≠ 0x01
  · rw [if_pos hhello, if_pos hhello]
    rfl
  rw [if_neg hhello, if_neg hhello]
  exact dissectHelloBody_eq _ _

/-! ## Reading back -/

theorem bigEndian_eq_ofDigits (data : List UInt8) :
    bigEndian data = Nat.ofDigits 256 (data.reverse.map UInt8.toNat) := by
  rw [bigEndian, Nat.ofDigits_eq_foldr, List.foldr_map, List.foldr_reverse]
  congr 1
  funext n b
  rw [Nat.add_comm, Nat.cast_id]

theorem bigEndian_beBytes {w n : Nat} (h : n < 256 ^ w) : bigEndian (beBytes w n) = n := by
  rw [bigEndian_eq_ofDigits, beBytes, List.reverse_reverse, ofDigits_leBytes h]

section Places

variable {data x rest : List UInt8} {pos n w : Nat} {b : UInt8}

theorem slice_of_at (h : At data pos x rest) (hn : x.length = n) : slice data pos n = x := by
  subst hn
  exact h.take

theorem byteAt_of_at (h : At data pos (b :: x) rest) : byteAt data pos = b.toNat := by
  rw [byteAt, List.getD_eq_getElem?_getD, h.get, Option.getD_some]

/-- A number is read back from its place. -/
theorem number_of_at (h : At data pos (beBytes w n) rest) (hn : n < 256 ^ w) :
    bigEndian (slice data pos w) = n := by
  rw [slice_of_at h (length_beBytes w n), bigEndian_beBytes hn]

end Places

/-! ## The records -/

/-- Bytes behind their number, which is `w` bytes long. -/
def vector (w : Nat) (data : List UInt8) : List UInt8 := beBytes w data.length ++ data

theorem length_vector (w : Nat) (data : List UInt8) : (vector w data).length = w + data.length := by
  rw [vector, List.length_append, length_beBytes]

/-- The number of bytes of a short vector is read back from its place. -/
theorem byteAt_of_vector {data x rest : List UInt8} {pos : Nat} (h : At data pos (vector 1 x) rest)
    (hx : x.length < 2 ^ 8) : byteAt data pos = x.length := by
  rw [vector, beBytes, leBytes, leBytes] at h
  rw [byteAt_of_at h]
  exact Nat.mod_eq_of_lt hx

/-- The number of bytes of a vector is read back from its place. -/
theorem length_of_vector {data x rest : List UInt8} {pos w : Nat}
    (h : At data pos (vector w x) rest) (hx : x.length < 256 ^ w) :
    bigEndian (slice data pos w) = x.length := by
  rw [vector] at h
  exact number_of_at h.first hx

def Extension.bytes (e : Extension) : List UInt8 := beBytes 2 e.extType ++ vector 2 e.data

theorem Extension.length_bytes (e : Extension) : e.bytes.length = 4 + e.data.length := by
  rw [Extension.bytes, List.length_append, length_vector, length_beBytes]
  omega

/-- An entry of the list of a server-name extension. -/
structure ServerName where
  nameType : UInt8
  name : List UInt8

def ServerName.bytes (n : ServerName) : List UInt8 := n.nameType :: vector 2 n.name

theorem ServerName.length_bytes (n : ServerName) : n.bytes.length = 3 + n.name.length := by
  rw [ServerName.bytes, List.length_cons, length_vector]
  omega

/-- The data of a server-name extension. -/
def serverNameList (names : List ServerName) : List UInt8 :=
  vector 2 (names.flatMap ServerName.bytes)

/-- A well-formed client hello. -/
structure ClientHello where
  /-- The version of the record. -/
  major : UInt8
  minor : UInt8
  /-- The version of the hello and its random bytes. -/
  versionRandom : List UInt8
  sessionId : List UInt8
  cipherSuites : List UInt8
  compressionMethods : List UInt8
  extensions : List Extension
  versionRandom_length : versionRandom.length = 34
  sessionId_length : sessionId.length ≤ 32
  cipherSuites_length : 2 ≤ cipherSuites.length ∧ cipherSuites.length % 2 = 0
  compressionMethods_length : 1 ≤ compressionMethods.length ∧ compressionMethods.length < 2 ^ 8
  types_distinct : (extensions.map (·.extType)).Nodup
  types_fit : ∀ e ∈ extensions, e.extType < 2 ^ 16
  fits : 4 + (34 + (1 + sessionId.length) + (2 + cipherSuites.length) +
    (1 + compressionMethods.length) + (2 + (extensions.flatMap Extension.bytes).length)) ≤ 2 ^ 14

namespace ClientHello

def body (hello : ClientHello) : List UInt8 :=
  hello.versionRandom ++ (vector 1 hello.sessionId ++ (vector 2 hello.cipherSuites ++
    (vector 1 hello.compressionMethods ++ vector 2 (hello.extensions.flatMap Extension.bytes))))

/-- The bytes of the record. -/
def record (hello : ClientHello) : List UInt8 :=
  0x16 :: hello.major :: hello.minor :: vector 2 (0x01 :: vector 3 hello.body)

theorem length_body (hello : ClientHello) :
    hello.body.length = 34 + (1 + hello.sessionId.length) + (2 + hello.cipherSuites.length) +
      (1 + hello.compressionMethods.length) +
      (2 + (hello.extensions.flatMap Extension.bytes).length) := by
  simp only [body, List.length_append, length_vector, hello.versionRandom_length]
  omega

theorem length_record (hello : ClientHello) : hello.record.length = 9 + hello.body.length := by
  simp only [record, List.length_cons, length_vector]
  omega

end ClientHello

/-! ## What the dissector reads of a record -/

/-- The data of an extension of a hello is short enough for its length. -/
theorem ClientHello.data_fits (hello : ClientHello) {e : Extension} (he : e ∈ hello.extensions) :
    e.data.length < 2 ^ 16 := by
  have hfits := hello.fits
  have hle : e.bytes.length ≤ (hello.extensions.flatMap Extension.bytes).length :=
    (List.sublist_flatten_of_mem (List.mem_map_of_mem he)).length_le
  rw [Extension.length_bytes] at hle
  omega

/-- **The extensions are read back**, by induction on them. -/
theorem extensions_of_at {body : List UInt8} {exts : List Extension} {fuel pos : Nat}
    (h : At body pos (exts.flatMap Extension.bytes) [])
    (hfits : ∀ e ∈ exts, e.extType < 2 ^ 16 ∧ e.data.length < 2 ^ 16)
    (hfuel : body.length ≤ pos + fuel) : extensions body body.length fuel pos = exts := by
  have hlength := h.length
  rw [List.length_nil, Nat.add_zero] at hlength
  induction exts generalizing pos fuel with
  | nil =>
    rw [List.flatMap_nil, List.length_nil] at hlength
    cases fuel with
    | zero => rfl
    | succ fuel => rw [extensions, if_pos (by omega)]
  | cons e exts ih =>
    rw [List.flatMap_cons] at h hlength
    rw [List.length_append, Extension.length_bytes] at hlength
    obtain ⟨htype, hdata⟩ := hfits e List.mem_cons_self
    have hnext := h.next
    rw [Extension.bytes, vector, List.append_assoc, List.append_assoc] at h
    have hlen := h.next
    rw [length_beBytes] at hlen
    have hext := hlen.next
    rw [length_beBytes] at hext
    cases fuel with
    | zero => omega
    | succ fuel =>
      rw [extensions, if_neg (by omega), number_of_at h.first htype, number_of_at hlen.first hdata]
      dsimp only
      rw [slice_of_at hext.first rfl, if_neg (fun hne => hne rfl)]
      rw [Extension.length_bytes, ← Nat.add_assoc] at hnext
      rw [ih hnext (fun e he => hfits e (List.mem_cons_of_mem _ he)) (by omega) (by omega)]

/-- **The body of a hello is read back.** -/
theorem helloOutline_body (hello : ClientHello) :
    helloOutline hello.body = .hello hello.extensions := by
  have hlength := hello.length_body
  have hfits := hello.fits
  have h : At hello.body 0 hello.body [] := ⟨[], rfl, (List.append_nil _).symm⟩
  -- the places of the five parts
  have hsession := At.next (x := hello.versionRandom) h
  rw [hello.versionRandom_length] at hsession
  have hciphers := hsession.next
  rw [length_vector] at hciphers
  have hcompression := hciphers.next
  rw [length_vector] at hcompression
  have hexts := hcompression.next
  rw [length_vector] at hexts
  have hsid := hello.sessionId_length
  have hmethods := hello.compressionMethods_length
  rw [helloOutline, if_neg (by omega), byteAt_of_vector hsession.first (by omega)]
  dsimp only
  rw [if_neg (by omega), Nat.add_assoc 34, length_of_vector hciphers.first (by omega),
    Nat.add_assoc _ 2, if_neg (by omega), byteAt_of_vector hcompression.first (by omega),
    Nat.add_assoc _ 1, if_neg (by omega), length_of_vector hexts (by omega)]
  have hstop : min hello.body.length (34 + (1 + hello.sessionId.length) +
      (2 + hello.cipherSuites.length) + (1 + hello.compressionMethods.length) + 2 +
      (hello.extensions.flatMap Extension.bytes).length) = hello.body.length := by omega
  rw [hstop]
  rw [vector] at hexts
  have hlist := hexts.next
  rw [length_beBytes] at hlist
  rw [extensions_of_at hlist (fun e he => ⟨hello.types_fit e he, hello.data_fits he⟩) (by omega)]

/-- **A record is read back**, whatever follows it. -/
theorem tlsOutline_of_at (hello : ClientHello) {data after : List UInt8}
    (h : At data 0 hello.record after) : tlsOutline data = .hello hello.extensions := by
  have hbody := hello.length_body
  have hfits := hello.fits
  have hrecord := hello.length_record
  have hlength := h.length
  have hdata : data = hello.record ++ after := h.drop
  rw [ClientHello.record] at h
  have hlen := h.tail.tail.tail
  have hhandshake := hlen
  rw [vector] at hhandshake
  have hhandshake := hhandshake.next
  rw [length_beBytes] at hhandshake
  have hcount : (0x01 :: vector 3 hello.body).length = 4 + hello.body.length := by
    rw [List.length_cons, length_vector]
    omega
  have hcut : bigEndian (slice data 3 2) = 4 + hello.body.length := by
    rw [length_of_vector hlen (by omega), hcount]
  have htake : (data.take (5 + (4 + hello.body.length))).drop 9 = hello.body := by
    have hall : 5 + (4 + hello.body.length) = hello.record.length := by omega
    rw [hall, hdata, List.take_left]
    rfl
  rw [tlsOutline, byteAt_of_at h, hcut, byteAt_of_at hhandshake, htake, helloOutline_body,
    if_neg (not_or.mpr ⟨by omega, fun hne => hne rfl⟩), if_neg (by omega),
    if_neg (fun hne => hne rfl)]

theorem tlsOutline_record (hello : ClientHello) (after : List UInt8) :
    tlsOutline (hello.record ++ after) = .hello hello.extensions :=
  tlsOutline_of_at hello (at_start _ _)

/-! ## Server names -/

/-- A host name: dot-separated labels of letters, digits and inner hyphens. -/
def AsciiHost (name : List UInt8) : Prop :=
  name.length ≤ 253 ∧ ∀ label ∈ (latin1 name).splitOn '.',
    label ≠ [] ∧ label.length ≤ 63 ∧ label.head? ≠ some '-' ∧ label.getLast? ≠ some '-' ∧
      ∀ c ∈ label, isAlnum c = true ∨ c = '-'

theorem AsciiHost.ne_nil {name : List UInt8} (h : AsciiHost name) : name ≠ [] := by
  rintro rfl
  exact (h.2 [] (by decide)).1 rfl

/-- The hello names the server in its server-name extension. -/
def ClientHello.Names (hello : ClientHello) (host : List UInt8) : Prop :=
  AsciiHost host ∧ ∃ names : List ServerName,
    ⟨0, serverNameList names⟩ ∈ hello.extensions ∧ (names.map (·.nameType)).Nodup ∧
      ⟨0, host⟩ ∈ names

/-- **A host name in the list is met**, by induction on the entries. -/
theorem hostNameFrom_of_at {ext : List UInt8} {names : List ServerName} {fuel cursor : Nat}
    (h : At ext cursor (names.flatMap ServerName.bytes) []) (hext : ext.length < 2 ^ 16)
    (hfuel : ext.length ≤ cursor + fuel) {host : List UInt8} (hhost : host ≠ [])
    (hmem : ⟨0, host⟩ ∈ names) : hostNameFrom ext ext.length fuel cursor ≠ none := by
  have hlength := h.length
  rw [List.length_nil, Nat.add_zero] at hlength
  induction names generalizing cursor fuel with
  | nil => exact absurd hmem List.not_mem_nil
  | cons n names ih =>
    rw [List.flatMap_cons] at h hlength
    rw [List.length_append, ServerName.length_bytes] at hlength
    have hnext := h.next
    have hname := h.first
    rw [ServerName.bytes] at hname
    have hvector := hname.tail
    rw [vector] at hvector
    have hdata := hvector.next
    rw [length_beBytes] at hdata
    cases fuel with
    | zero => omega
    | succ fuel =>
      rw [hostNameFrom, if_neg (by omega), byteAt_of_at hname,
        length_of_vector hname.tail (by omega)]
      dsimp only
      rw [slice_of_at hdata rfl]
      by_cases hfound : n.nameType.toNat = 0 ∧ n.name ≠ []
      · rw [if_pos hfound]
        exact Option.some_ne_none _
      · rw [if_neg hfound]
        rw [ServerName.length_bytes, ← Nat.add_assoc] at hnext
        refine ih hnext (by omega) ?_ (by omega)
        rcases List.mem_cons.mp hmem with rfl | hmem
        · exact absurd ⟨rfl, hhost⟩ hfound
        · exact hmem

/-- **The server name of a hello is met.** -/
theorem hostNames_record {hello : ClientHello} {host : List UInt8} (h : hello.Names host)
    (after : List UInt8) : hostNames (hello.record ++ after) ≠ [] := by
  obtain ⟨hhost, names, hext, -, hmem⟩ := h
  have hlength : (serverNameList names).length = 2 + (names.flatMap ServerName.bytes).length :=
    length_vector 2 _
  have hfits := hello.data_fits hext
  dsimp only at hfits
  have hplace : At (serverNameList names) 0 (serverNameList names) [] :=
    ⟨[], rfl, (List.append_nil _).symm⟩
  have hcount := length_of_vector hplace (by omega)
  have hlist := hplace
  rw [serverNameList, vector] at hlist
  have hlist := hlist.next
  rw [length_beBytes, Nat.zero_add] at hlist
  have hlong : 5 ≤ (serverNameList names).length := by
    have hle : (ServerName.mk 0 host).bytes.length ≤ (names.flatMap ServerName.bytes).length :=
      (List.sublist_flatten_of_mem (List.mem_map_of_mem hmem)).length_le
    rw [ServerName.length_bytes] at hle
    omega
  have hmet : hostName ⟨0, serverNameList names⟩ ≠ none := by
    rw [hostName, if_pos ⟨rfl, hlong⟩, hcount, ← hlength, Nat.min_self]
    exact hostNameFrom_of_at hlist hfits (by omega) hhost.ne_nil hmem
  rw [hostNames, tlsOutline_record]
  intro hnone
  rw [List.filterMap_eq_nil_iff] at hnone
  exact hmet (hnone _ hext)

/-! ## Dissection -/

/-- The value of a field.  Source: `protocol_dissectors.py` `ProtocolMetadata.get`. -/
def ProtocolMetadata.get (m : ProtocolMetadata) (name : String) (default : String) : String :=
  ((m.fields.find? fun f => f.1 = name).map Prod.snd).getD default

/-- **What the dissection of a payload is meant to be**: it never raises, and it reports the server
name of every hello. -/
structure Dissects (upper : String → String) (srcPort dstPort : Option Int)
    (payload : List UInt8) : Prop where
  hello_returns : ∃ m, dissectTlsClientHelloIndexed payload = .ok m
  returns : ∃ m, dissectPayload upper payload srcPort dstPort = .ok m
  sni : ∀ (hello : ClientHello) (host after : List UInt8), payload = hello.record ++ after →
    hello.Names host → ∃ m, dissectTlsClientHelloIndexed payload = .ok (some m) ∧
      m.get "sni" "" = String.ofList (latin1 host)

/-- **The dissection is all it is meant to be** exactly on the payloads in which it meets no host
name: the decoding of every host name raises. -/
theorem dissects_iff (upper : String → String) (srcPort dstPort : Option Int)
    (payload : List UInt8) :
    Dissects upper srcPort dstPort payload ↔ hostNames payload = [] := by
  constructor
  · intro h
    obtain ⟨m, hm⟩ := h.returns
    exact (dissectPayload_ok_iff upper payload srcPort dstPort).mp ⟨m, hm⟩
  · intro hnone
    refine ⟨?_, (dissectPayload_ok_iff upper payload srcPort dstPort).mpr hnone, ?_⟩
    · rw [dissectTlsClientHelloIndexed_eq]
      exact (dissectTlsClientHello_ok_iff payload).mpr hnone
    · rintro hello host after rfl hnames
      exact absurd hnone (hostNames_record hnames after)

/-- A client hello for the server `a`. -/
def helloFor : ClientHello where
  major := 3
  minor := 1
  versionRandom := 3 :: 3 :: List.replicate 32 7
  sessionId := []
  cipherSuites := [0x13, 1]
  compressionMethods := [0]
  extensions := [⟨0, serverNameList [⟨0, [97]⟩]⟩]
  versionRandom_length := rfl
  sessionId_length := by decide
  cipherSuites_length := by decide
  compressionMethods_length := by decide
  types_distinct := List.nodup_singleton _
  types_fit := by decide
  fits := by decide

theorem hello_not_dissected : ¬ ∀ (upper : String → String) (srcPort dstPort : Option Int)
    (payload : List UInt8), Dissects upper srcPort dstPort payload := by
  intro h
  obtain ⟨m, hm⟩ := (h id none (some 443) helloFor.record).returns
  have hraised : (dissectPayload id helloFor.record none (some 443)).isOk = false := by
    decide +kernel
  rw [hm] at hraised
  cases hraised

end NightRecon.RedEngine.ProtocolDissectors
