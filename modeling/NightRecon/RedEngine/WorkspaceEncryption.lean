import NightRecon.Lib.Aead
import NightRecon.Lib.Base64
import NightRecon.RedEngine.WorkspaceRecovery

/-!
# Encrypted backups

`nightrecon_red_engine/workspace_recovery.py` `_encrypt_backup_file` and `_decrypt_backup_file`: an
archive is written as a magic line, a header line, the ciphertext and the tag, and read back.

* `encryptedHeader`, `parseEncryptedHeader` — the header line, and `parse_encryptedHeader` that it
  is read back;
* `openFrame` — the parts of a file, with `openFrame_eq_ok` and `openFrame_of_parts`;
* `encryptBackupFile`, `decryptBackupFile` — procedures on the destination and the temporary file,
  with what they do as `encrypt_triple` and `decrypt_triple`;
* `encrypted_backup_law` — what was encrypted is decrypted, and nothing else is.

`scrypt` is the key of a passphrase and a salt, `cipher` the authenticated cipher, and `floatIs`
tells the float literals that equal an integer.
-/

namespace NightRecon.RedEngine.WorkspaceEncryption

open NightRecon.Lib
open NightRecon.Lib.Aead
open NightRecon.Lib.Checks
open NightRecon.Lib.Json (decodeUtf8 encode)
open NightRecon.Documents
open NightRecon.DocumentMembers

def encryptedBackupFormat : String := "nightrecon-red-workspace-encrypted-v1"

def encryptedMagic : Bytes := encode "NIGHTRECON-RED-WORKSPACE-ENC-V1\n".toList

def encryptedTagBytes : Nat := 16

def encryptedHeaderMaxBytes : Nat := 4096

def scryptN : Int := 2 ^ 14

def scryptR : Int := 8

def scryptP : Int := 1

def encryptionChunkBytes : Nat := 1024 * 1024

section Functions

variable (scrypt : Bytes → Bytes → Bytes) (floatIs : Int → String → Bool) (cipher : Cipher)

/-! ## Keys and headers -/

/-- Source: `workspace_recovery.py` `_validate_passphrase`. -/
def validatePassphrase (passphrase : Bytes) : Py Bytes := do
  raiseIf (passphrase.length < 12)
    (valueError "workspace backup passphrase must be at least 12 bytes")
  raiseIf (1024 < passphrase.length) (valueError "workspace backup passphrase exceeds 1024 bytes")
  return passphrase

/-- Source: `workspace_recovery.py` `_derive_backup_key`. -/
def deriveBackupKey (passphrase salt : Bytes) : Py Bytes := do
  let accepted ← validatePassphrase passphrase
  return scrypt accepted salt

/-- The text of bytes in base64. -/
def b64 (data : Bytes) : String := String.ofList (Base64.encode data)

def headerMembers (salt nonce : Bytes) : List (String × Json) :=
  [("format", .str encryptedBackupFormat), ("kdf", .str "scrypt"), ("n", .int scryptN),
    ("r", .int scryptR), ("p", .int scryptP), ("cipher", .str "aes-256-gcm"),
    ("salt_b64", .str (b64 salt)), ("nonce_b64", .str (b64 nonce)),
    ("authorization_effect", .str "none")]

/-- Source: `workspace_recovery.py` `_encrypted_header`. -/
def encryptedHeader (salt nonce : Bytes) : Bytes :=
  encode (Json.dumps (.obj (headerMembers salt nonce)) ++ "\n").toList

/-- The value is the text, as `==` has it. -/
def isText (text : String) : Json → Bool
  | .str s => s = text
  | _ => false

/-- The value is the integer, as `==` has it: a truth value is an integer too. -/
def isInteger (k : Int) : Json → Bool
  | .int n => n = k
  | .bool b => b.toInt = k
  | .float literal => floatIs k literal
  | _ => false

/-- `base64.b64decode(value, validate=True)`. -/
def asBase64 : Json → Py Bytes
  | .str s => getOrRaise (Base64.decode s.toList)
      (valueError "encrypted workspace backup header encoding is invalid")
  | _ => .error (valueError "encrypted workspace backup header encoding is invalid")

/-- The check of one member of a header. -/
def checkMember (payload : Json) (key : String) (expected : Json → Bool) (message : String) :
    Py Unit := do
  let value ← getItem payload key
  require (expected value = true) (valueError message)

/-- Source: `workspace_recovery.py` `_parse_encrypted_header`. -/
def parseEncryptedHeader (header : Bytes) : Py (Bytes × Bytes) := do
  raiseIf (encryptedHeaderMaxBytes < header.length)
    (valueError "encrypted workspace backup header is too large")
  let chars ← getOrRaise (decodeUtf8 header)
    (valueError "encrypted workspace backup header is invalid")
  let payload ← getOrRaise (Json.loads (String.ofList chars))
    (valueError "encrypted workspace backup header is invalid")
  require (keys? payload = some {"format", "kdf", "n", "r", "p", "cipher", "salt_b64", "nonce_b64",
      "authorization_effect"})
    (valueError "encrypted workspace backup header schema is not supported")
  let unsupported := "encrypted workspace backup cryptographic parameters are unsupported"
  checkMember payload "format" (isText encryptedBackupFormat) unsupported
  checkMember payload "kdf" (isText "scrypt") unsupported
  checkMember payload "n" (isInteger floatIs scryptN) unsupported
  checkMember payload "r" (isInteger floatIs scryptR) unsupported
  checkMember payload "p" (isInteger floatIs scryptP) unsupported
  checkMember payload "cipher" (isText "aes-256-gcm") unsupported
  checkMember payload "authorization_effect" (isText "none")
    "encrypted workspace backup cannot grant authorization"
  let salt ← getItem payload "salt_b64" >>= asBase64
  let nonce ← getItem payload "nonce_b64" >>= asBase64
  raiseIf (salt.length ≠ 16 ∨ nonce.length ≠ 12)
    (valueError "encrypted workspace backup salt or nonce size is invalid")
  return (salt, nonce)

/-! ## Files -/

/-- The destination, and the temporary file that takes its place. -/
structure Disk where
  destination : Option Bytes
  temporary : Option Bytes

/-- What happens while a file is read and another is written: the outcomes of opening the one and of
making the other, of each read and each write, of flushing, of moving the file, and whether a file
that is left over can be removed. -/
structure Outcomes where
  opened : Py Unit
  prepare : Py Unit
  read : Bytes → Py Unit
  write : Option Bytes → Bytes → Py Unit
  finish : Py Unit
  replace : Py Unit
  removed : Bool

/-- `output.write(data)`. -/
def write (outcomes : Outcomes) (data : Bytes) : Proc Exn Disk Unit := do
  let disk ← Proc.get
  Proc.ofExcept (outcomes.write disk.temporary data)
  Proc.modify fun disk => { disk with temporary := disk.temporary.map (· ++ data) }

/-- `output.flush()`, `os.fsync` and `os.replace(tmp, destination)`. -/
def moveFile (outcomes : Outcomes) : Proc Exn Disk Unit := do
  Proc.ofExcept outcomes.finish
  Proc.ofExcept outcomes.replace
  Proc.modify fun disk => { destination := disk.temporary, temporary := none }

/-- `destination.parent.mkdir` and `tempfile.mkstemp`. -/
def makeTemporary (outcomes : Outcomes) : Proc Exn Disk Unit := do
  Proc.ofExcept outcomes.prepare
  Proc.modify fun disk => { disk with temporary := some [] }

/-- `tmp.unlink()`, where an error is passed over. -/
def unlink (outcomes : Outcomes) (disk : Disk) : Disk :=
  if outcomes.removed then { disk with temporary := none } else disk

/-! ## Encryption -/

/-- The loop over the chunks of a plaintext; `put` is what the encryptor puts out. -/
def encryptChunks (outcomes : Outcomes) (put : Bytes → Bytes) (fed rest : Bytes) :
    Proc Exn Disk Unit := do
  Proc.ofExcept (outcomes.read fed)
  if _h : rest = [] then return () else
    let chunk := rest.take encryptionChunkBytes
    write outcomes (update put fed chunk)
    encryptChunks outcomes put (fed ++ chunk) (rest.drop encryptionChunkBytes)
termination_by rest.length
decreasing_by
  rw [List.length_drop]
  exact Nat.sub_lt (List.length_pos_iff.mpr _h) (by decide)

/-- Source: `workspace_recovery.py` `_encrypt_backup_file`, with what `os.urandom` gives. -/
def encryptBackupFile (outcomes : Outcomes) (plaintext passphrase salt nonce : Bytes) :
    Proc Exn Disk Unit := do
  let header := encryptedHeader salt nonce
  let key ← Proc.ofExcept (deriveBackupKey scrypt passphrase salt)
  let associated := encryptedMagic ++ header
  makeTemporary outcomes
  Proc.onError (do
    Proc.ofExcept outcomes.opened
    write outcomes encryptedMagic
    write outcomes header
    encryptChunks outcomes (cipher.encrypted key nonce associated) [] plaintext
    write outcomes (cipher.tag key nonce associated plaintext)
    moveFile outcomes) (unlink outcomes)

/-! ## Decryption -/

/-- The bytes up to the first line feed. -/
def firstLine : Bytes → Bytes
  | [] => []
  | b :: rest => if b = 10 then [b] else b :: firstLine rest

/-- `source.readline(limit)`. -/
def readline (limit : Nat) (data : Bytes) : Bytes := (firstLine data).take limit

/-- What stands around the ciphertext of a file. -/
structure Frame where
  header : Bytes
  salt : Bytes
  nonce : Bytes
  dataStart : Nat
  ciphertextLength : Nat
  tag : Bytes

/-- What is read of a file before it is decrypted. -/
def openFrame (file : Bytes) : Py Frame := do
  require (readline (encryptedMagic.length + 1) file = encryptedMagic)
    (valueError "encrypted workspace backup magic is invalid")
  let header := readline (encryptedHeaderMaxBytes + 1) (file.drop encryptedMagic.length)
  require (header.getLast? = some 10 ∧ header.length ≤ encryptedHeaderMaxBytes)
    (valueError "encrypted workspace backup header is invalid")
  let dataStart := encryptedMagic.length + header.length
  let (salt, nonce) ← parseEncryptedHeader floatIs header
  raiseIf ((file.length : Int) - dataStart - encryptedTagBytes < 1)
    (valueError "encrypted workspace backup payload is missing")
  return {
    header := header
    salt := salt
    nonce := nonce
    dataStart := dataStart
    ciphertextLength := file.length - dataStart - encryptedTagBytes
    tag := (file.drop (file.length - encryptedTagBytes)).take encryptedTagBytes }

/-- The loop over the chunks of a ciphertext; `put` is what the decryptor puts out, and the bytes it
was fed are returned. -/
def decryptChunks (outcomes : Outcomes) (put : Bytes → Bytes) (fed rest : Bytes)
    (remaining : Nat) : Proc Exn Disk Bytes :=
  if remaining = 0 then return fed else do
    Proc.ofExcept (outcomes.read fed)
    let chunk := rest.take (min encryptionChunkBytes remaining)
    if _h : chunk = [] then
      Proc.ofExcept (.error (valueError "encrypted workspace backup payload is truncated"))
    else
      write outcomes (update put fed chunk)
      decryptChunks outcomes put (fed ++ chunk) (rest.drop chunk.length) (remaining - chunk.length)
termination_by remaining
decreasing_by
  exact Nat.sub_lt (by omega) (List.length_pos_iff.mpr _h)

/-- Source: `workspace_recovery.py` `_decrypt_backup_file`. -/
def decryptBackupFile (outcomes : Outcomes) (encrypted : Option Bytes) (passphrase : Bytes) :
    Proc Exn Disk Unit := do
  let file ← Proc.ofExcept (getOrRaise encrypted
    (valueError "encrypted workspace backup archive not found"))
  Proc.ofExcept outcomes.opened
  let frame ← Proc.ofExcept (openFrame floatIs file)
  let key ← Proc.ofExcept (deriveBackupKey scrypt passphrase frame.salt)
  let associated := encryptedMagic ++ frame.header
  makeTemporary outcomes
  Proc.onError (do
    let fed ← decryptChunks outcomes (cipher.decrypted key frame.nonce associated) []
      (file.drop frame.dataStart) frame.ciphertextLength
    Proc.ofExcept (require (cipher.verifies key frame.nonce associated fed frame.tag = true)
      (valueError "encrypted workspace backup authentication failed"))
    moveFile outcomes) (unlink outcomes)

end Functions

/-! ## The header line -/

def headerStart : List Char :=
  ("\x7b\"authorization_effect\":\"none\",\"cipher\":\"aes-256-gcm\",\"format\":\"" ++
    "nightrecon-red-workspace-encrypted-v1\",\"kdf\":\"scrypt\",\"n\":16384,\"nonce_b64\":\"").toList

def headerMiddle : List Char := "\",\"p\":1,\"r\":8,\"salt_b64\":\"".toList

/-- The characters of a header line in front of its line feed. -/
def headerText (salt nonce : Bytes) : List Char :=
  headerStart ++ (Base64.encode nonce ++ (headerMiddle ++ (Base64.encode salt ++ ['"', '\x7d'])))

/-- A text in base64 is written as it is. -/
theorem textBy_b64 (data : Bytes) :
    Json.textBy Json.asciiEscape (.str (b64 data)) = '"' :: (Base64.encode data ++ ['"']) := by
  have hself : ∀ c ∈ Base64.encode data, Json.asciiEscape c = [c] := by
    intro c hc
    obtain ⟨hge, hle, hne⟩ := Base64.bounds_of_mem_encode hc
    have hother : ∀ d : Char, d.toNat < 43 → c ≠ d := fun d hd heq => by
      rw [heq] at hge
      omega
    have hlarge : c.toNat ≠ 8 ∧ c.toNat ≠ 12 ∧ ¬ c.toNat < 32 := by omega
    rw [Json.asciiEscape, if_pos (by omega), Json.escapeChar]
    simp only [hother '"' (by decide), hother '\n' (by decide), hother '\r' (by decide),
      hother '\t' (by decide), hne, hlarge, if_false]
  rw [Json.textBy, Json.quoteBy, b64, String.toList_ofList, List.flatMap_congr hself,
    List.flatMap_singleton']
  rfl

theorem dumps_header (salt nonce : Bytes) :
    (Json.dumps (.obj (headerMembers salt nonce))).toList = headerText salt nonce := by
  have hsorted : Json.sortMembers (headerMembers salt nonce) =
      [("authorization_effect", .str "none"), ("cipher", .str "aes-256-gcm"),
        ("format", .str encryptedBackupFormat), ("kdf", .str "scrypt"), ("n", .int scryptN),
        ("nonce_b64", .str (b64 nonce)), ("p", .int scryptP), ("r", .int scryptR),
        ("salt_b64", .str (b64 salt))] := by
    simp [Json.sortMembers, headerMembers, List.insertionSort, List.orderedInsert]
  have hstart : headerStart =
      '\x7b' :: (Json.memberBy Json.asciiEscape ("authorization_effect", .str "none") ++
        ',' :: (Json.memberBy Json.asciiEscape ("cipher", .str "aes-256-gcm") ++
        ',' :: (Json.memberBy Json.asciiEscape ("format", .str encryptedBackupFormat) ++
        ',' :: (Json.memberBy Json.asciiEscape ("kdf", .str "scrypt") ++
        ',' :: (Json.memberBy Json.asciiEscape ("n", .int scryptN) ++
        ',' :: (Json.quoteBy Json.asciiEscape "nonce_b64" ++ [':', '"'])))))) := by
    decide +kernel
  have hmiddle : headerMiddle =
      '"' :: ',' :: (Json.memberBy Json.asciiEscape ("p", .int scryptP) ++
        ',' :: (Json.memberBy Json.asciiEscape ("r", .int scryptR) ++
        ',' :: (Json.quoteBy Json.asciiEscape "salt_b64" ++ [':', '"']))) := by
    decide +kernel
  have hmember : ∀ (k : String) (data : Bytes),
      Json.memberBy Json.asciiEscape (k, .str (b64 data)) =
        Json.quoteBy Json.asciiEscape k ++ ':' :: '"' :: (Base64.encode data ++ ['"']) := by
    intro k data
    rw [Json.memberBy, Json.memberText, textBy_b64]
  rw [Json.dumps, String.toList_ofList, Json.textBy_obj, hsorted, headerText, hstart, hmiddle]
  simp [List.intercalate, hmember]

/-- ASCII is one byte a character. -/
theorem encode_ascii {text : List Char} (h : ∀ c ∈ text, c.toNat < 128) :
    encode text = text.map fun c => UInt8.ofNat c.toNat := by
  have hone : ∀ c ∈ text, String.utf8EncodeChar c = [UInt8.ofNat c.toNat] := by
    intro c hc
    have hle : c.val.toNat ≤ 127 := Nat.le_of_lt_succ (h c hc)
    rw [String.utf8EncodeChar, if_pos hle]
    rfl
  rw [encode, List.flatMap_congr hone, List.map_eq_flatMap]

/-- A printable ASCII character. -/
def isPrintable (c : Char) : Bool := 32 ≤ c.toNat && c.toNat < 127

theorem printable_headerText (salt nonce : Bytes) : ∀ c ∈ headerText salt nonce,
    32 ≤ c.toNat ∧ c.toNat < 127 := by
  have hconstant : ∀ c ∈ headerStart ++ headerMiddle ++ ['"', '\x7d'],
      32 ≤ c.toNat ∧ c.toNat < 127 := by
    have hall : (headerStart ++ headerMiddle ++ ['"', '\x7d']).all isPrintable = true := by
      decide +kernel
    intro c hc
    simpa [isPrintable] using List.all_eq_true.mp hall c hc
  have hencoded : ∀ (data : Bytes), ∀ c ∈ Base64.encode data, 32 ≤ c.toNat ∧ c.toNat < 127 := by
    intro data c hc
    obtain ⟨hge, hle, -⟩ := Base64.bounds_of_mem_encode hc
    omega
  intro c hc
  simp only [headerText, List.mem_append] at hc hconstant
  rcases hc with hc | hc | hc | hc | hc
  · exact hconstant c (.inl (.inl hc))
  · exact hencoded nonce c hc
  · exact hconstant c (.inl (.inr hc))
  · exact hencoded salt c hc
  · exact hconstant c (.inr hc)

/-- The bytes of a header line in front of its line feed. -/
def headerBody (salt nonce : Bytes) : Bytes := encode (headerText salt nonce)

theorem encryptedHeader_eq (salt nonce : Bytes) :
    encryptedHeader salt nonce = headerBody salt nonce ++ [10] := by
  rw [encryptedHeader, String.toList_append, dumps_header, encode, List.flatMap_append]
  rfl

theorem notMem_headerBody (salt nonce : Bytes) : (10 : UInt8) ∉ headerBody salt nonce := by
  have hprintable := printable_headerText salt nonce
  rw [headerBody, encode_ascii fun c hc => (hprintable c hc).2.trans (by decide), List.mem_map]
  rintro ⟨c, hc, hbyte⟩
  obtain ⟨hge, hlt⟩ := hprintable c hc
  have hnat := congrArg UInt8.toNat hbyte
  rw [UInt8.toNat_ofNat', Nat.mod_eq_of_lt (by omega)] at hnat
  exact absurd hnat (by simp; omega)

theorem length_headerBody {salt nonce : Bytes} (hsalt : salt.length = 16)
    (hnonce : nonce.length = 12) : (headerBody salt nonce).length < 4096 := by
  have hprintable := printable_headerText salt nonce
  have hconstant : headerStart.length = 141 ∧ headerMiddle.length = 26 := by decide +kernel
  rw [headerBody, encode_ascii fun c hc => (hprintable c hc).2.trans (by decide), List.length_map]
  simp only [headerText, List.length_append, Base64.length_encode, hsalt, hnonce, hconstant]
  decide

/-- **A header line is read back.** -/
theorem parse_encryptedHeader (floatIs : Int → String → Bool) {salt nonce : Bytes}
    (hsalt : salt.length = 16) (hnonce : nonce.length = 12) :
    parseEncryptedHeader floatIs (encryptedHeader salt nonce) = .ok (salt, nonce) := by
  have hlength : ¬ encryptedHeaderMaxBytes < (encryptedHeader salt nonce).length := by
    have hbody := length_headerBody hsalt hnonce
    rw [encryptedHeader_eq, List.length_append, List.length_singleton]
    exact Nat.not_lt.mpr hbody
  have hnodup : ((headerMembers salt nonce).map (·.1)).Nodup := by simp [headerMembers]
  have hvalid : Json.valid (.obj (headerMembers salt nonce)) := by
    refine ⟨hnodup, ?_⟩
    simp [headerMembers, Json.membersValid, Json.valid]
  have hexact := hasExactly_normal hnodup
  have hloads := Json.loads_dumps_line hvalid
  generalize Json.normal (.obj (headerMembers salt nonce)) = payload at hexact hloads
  have hkeys : keys? payload =
      some {"format", "kdf", "n", "r", "p", "cipher", "salt_b64", "nonce_b64",
        "authorization_effect"} := by
    rw [hexact.keys]
    rfl
  obtain ⟨hformat, hkdf, hn, hr, hp, hcipher, hsalt64, hnonce64, heffect, -⟩ :
      _ ∧ _ ∧ _ ∧ _ ∧ _ ∧ _ ∧ _ ∧ _ ∧ _ ∧ True := by
    simpa [normalMembers, headerMembers, Json.normal] using hexact.has
  have hcheck : ∀ {key : String} {expected : Json → Bool} {message : String} {value : Json},
      payload.get? key = some value → expected value = true →
        checkMember payload key expected message = .ok () := by
    intro key expected message value hget hexpected
    rw [checkMember, getItem_eq_ok.mpr hget, ok_bind, require_of hexpected]
  have hdecoded : ∀ data : Bytes, asBase64 (.str (b64 data)) = .ok data := by
    intro data
    rw [asBase64, b64, String.toList_ofList, Base64.decode_encode, getOrRaise_some]
  rw [parseEncryptedHeader, raiseIf_of_not hlength, ok_bind, encryptedHeader,
    Json.decodeUtf8_encode, getOrRaise_some, ok_bind, String.ofList_toList,
    hloads, getOrRaise_some, ok_bind, require_of hkeys, ok_bind]
  dsimp only
  rw [hcheck hformat (by simp [isText]), ok_bind, hcheck hkdf (by simp [isText]), ok_bind,
    hcheck hn (by simp [isInteger]), ok_bind, hcheck hr (by simp [isInteger]), ok_bind,
    hcheck hp (by simp [isInteger]), ok_bind, hcheck hcipher (by simp [isText]), ok_bind,
    hcheck heffect (by simp [isText]), ok_bind, getItem_eq_ok.mpr hsalt64, ok_bind, hdecoded,
    ok_bind, getItem_eq_ok.mpr hnonce64, ok_bind, hdecoded, ok_bind,
    raiseIf_of_not (by simp [hsalt, hnonce])]
  rfl

/-! ## The parts of a file -/

theorem firstLine_begins (data : Bytes) : firstLine data <+: data := by
  induction data with
  | nil => exact List.prefix_refl []
  | cons b rest ih =>
    unfold firstLine
    split
    · exact List.prefix_append [b] rest
    · exact (List.prefix_cons_inj b).mpr ih

theorem firstLine_append {line : Bytes} (h : (10 : UInt8) ∉ line) (rest : Bytes) :
    firstLine (line ++ 10 :: rest) = line ++ [10] := by
  induction line with
  | nil => rfl
  | cons b line ih =>
    rw [List.mem_cons, not_or] at h
    rw [List.cons_append, firstLine, if_neg (Ne.symm h.1), ih h.2, List.cons_append]

theorem readline_begins (limit : Nat) (data : Bytes) : readline limit data <+: data :=
  (List.take_prefix _ _).trans (firstLine_begins data)

theorem readline_append {line : Bytes} {limit : Nat} (h : (10 : UInt8) ∉ line)
    (hlimit : line.length + 1 ≤ limit) (rest : Bytes) :
    readline limit (line ++ [10] ++ rest) = line ++ [10] := by
  have hline : line ++ [10] ++ rest = line ++ 10 :: rest := by simp
  rw [readline, hline, firstLine_append h]
  exact List.take_of_length_le (by rwa [List.length_append, List.length_singleton])

/-- What a file is made of. -/
structure Parts (floatIs : Int → String → Bool) (file : Bytes) (frame : Frame)
    (ciphertext : Bytes) : Prop where
  file_eq : file = encryptedMagic ++ (frame.header ++ (ciphertext ++ frame.tag))
  header : parseEncryptedHeader floatIs frame.header = .ok (frame.salt, frame.nonce)
  dataStart : frame.dataStart = encryptedMagic.length + frame.header.length
  ciphertextLength : frame.ciphertextLength = ciphertext.length

theorem Parts.drop {floatIs : Int → String → Bool} {file : Bytes} {frame : Frame}
    {ciphertext : Bytes} (h : Parts floatIs file frame ciphertext) :
    file.drop frame.dataStart = ciphertext ++ frame.tag := by
  rw [h.file_eq, h.dataStart, ← List.append_assoc, ← List.length_append, List.drop_left]

/-- **A file whose frame is read** is made of its parts. -/
theorem openFrame_eq_ok {floatIs : Int → String → Bool} {file : Bytes} {frame : Frame}
    (h : openFrame floatIs file = .ok frame) :
    ∃ ciphertext, Parts floatIs file frame ciphertext := by
  rw [openFrame, require_bind_eq_ok] at h
  obtain ⟨hmagic, h⟩ := h
  obtain ⟨rest, rfl⟩ : encryptedMagic <+: file := hmagic ▸ readline_begins _ file
  dsimp only at h
  rw [List.drop_left] at h
  generalize hheader : readline (encryptedHeaderMaxBytes + 1) rest = header at h
  obtain ⟨payload, rfl⟩ : header <+: rest := hheader ▸ readline_begins _ rest
  rw [require_bind_eq_ok, bind_eq_ok] at h
  obtain ⟨-, ⟨salt, nonce⟩, hparse, h⟩ := h
  rw [raiseIf_bind_eq_ok] at h
  obtain ⟨hpayload, h⟩ := h
  obtain rfl := Except.ok.inj h
  simp only [List.length_append, encryptedTagBytes] at hpayload
  push_cast at hpayload
  have hlong : 16 < payload.length := by omega
  refine ⟨payload.take (payload.length - 16), ?_, hparse, rfl, ?_⟩
  · have hlength : (encryptedMagic ++ (header ++ payload)).length - encryptedTagBytes =
        (encryptedMagic ++ header).length + (payload.length - 16) := by
      simp only [List.length_append, encryptedTagBytes]
      omega
    have htag : (payload.drop (payload.length - 16)).length = encryptedTagBytes := by
      rw [List.length_drop, encryptedTagBytes]
      omega
    have hdrop : (encryptedMagic ++ (header ++ payload)).drop
        ((encryptedMagic ++ header).length + (payload.length - 16)) =
          payload.drop (payload.length - 16) := by
      rw [← List.append_assoc, List.drop_length_add_append]
    dsimp only
    rw [hlength, hdrop, ← htag, List.take_length, List.take_append_drop]
  · simp only [encryptedTagBytes, List.length_append, List.length_take]
    omega

/-- The frame of a file that was written. -/
def writtenFrame (salt nonce ciphertext tag : Bytes) : Frame where
  header := encryptedHeader salt nonce
  salt := salt
  nonce := nonce
  dataStart := encryptedMagic.length + (encryptedHeader salt nonce).length
  ciphertextLength := ciphertext.length
  tag := tag

/-- **The frame of a written file** is read. -/
theorem openFrame_written (floatIs : Int → String → Bool) {salt nonce ciphertext tag : Bytes}
    (hsalt : salt.length = 16) (hnonce : nonce.length = 12) (hciphertext : ciphertext ≠ [])
    (htag : tag.length = 16) :
    openFrame floatIs (encryptedMagic ++ (encryptedHeader salt nonce ++ (ciphertext ++ tag))) =
      .ok (writtenFrame salt nonce ciphertext tag) := by
  have hmagic : readline (encryptedMagic.length + 1)
      (encryptedMagic ++ (encryptedHeader salt nonce ++ (ciphertext ++ tag))) =
        encryptedMagic := by
    have hline : encryptedMagic = encode "NIGHTRECON-RED-WORKSPACE-ENC-V1".toList ++ [10] := by
      decide +kernel
    rw [hline]
    refine readline_append (by decide +kernel) ?_ _
    rw [List.length_append, List.length_singleton]
    omega
  have hheader : readline (encryptedHeaderMaxBytes + 1)
      (encryptedHeader salt nonce ++ (ciphertext ++ tag)) = encryptedHeader salt nonce := by
    have hbody := length_headerBody hsalt hnonce
    rw [encryptedHeader_eq]
    exact readline_append (notMem_headerBody salt nonce)
      (Nat.le_succ_of_le (Nat.succ_le_of_lt hbody)) _
  have hends : (encryptedHeader salt nonce).getLast? = some 10 ∧
      (encryptedHeader salt nonce).length ≤ encryptedHeaderMaxBytes := by
    have hbody := length_headerBody hsalt hnonce
    rw [encryptedHeader_eq, List.getLast?_concat, List.length_append, List.length_singleton]
    exact ⟨rfl, hbody⟩
  have hpositive : 0 < ciphertext.length := List.length_pos_iff.mpr hciphertext
  have hpayload : ¬ ((encryptedMagic ++ (encryptedHeader salt nonce ++
      (ciphertext ++ tag))).length : Int) -
        ((encryptedMagic.length + (encryptedHeader salt nonce).length : Nat) : Int) -
          ((encryptedTagBytes : Nat) : Int) < 1 := by
    simp only [List.length_append, htag, encryptedTagBytes]
    push_cast
    omega
  rw [openFrame, require_of hmagic, ok_bind, List.drop_left, hheader]
  dsimp only
  rw [require_of hends, ok_bind, parse_encryptedHeader floatIs hsalt hnonce, ok_bind]
  dsimp only
  rw [raiseIf_of_not hpayload, ok_bind]
  have hlength : (encryptedMagic ++ (encryptedHeader salt nonce ++ (ciphertext ++ tag))).length -
      encryptedTagBytes = (encryptedMagic ++ (encryptedHeader salt nonce ++ ciphertext)).length := by
    simp only [List.length_append, htag, encryptedTagBytes]
    omega
  have hcount : (encryptedMagic ++ (encryptedHeader salt nonce ++ (ciphertext ++ tag))).length -
      (encryptedMagic.length + (encryptedHeader salt nonce).length) - encryptedTagBytes =
        ciphertext.length := by
    simp only [List.length_append, htag, encryptedTagBytes]
    omega
  have hend : (encryptedMagic ++ (encryptedHeader salt nonce ++ (ciphertext ++ tag))).drop
      (encryptedMagic ++ (encryptedHeader salt nonce ++ ciphertext)).length = tag := by
    rw [← List.append_assoc _ ciphertext tag, ← List.append_assoc _ _ tag, List.drop_left]
  rw [hcount, hlength, hend, writtenFrame, encryptedTagBytes, ← htag, List.take_length]
  rfl

/-! ## What the procedures do -/

/-- Every operation succeeds. -/
structure Outcomes.Smooth (outcomes : Outcomes) : Prop where
  opened : outcomes.opened = .ok ()
  prepare : outcomes.prepare = .ok ()
  read : ∀ fed, outcomes.read fed = .ok ()
  write : ∀ written data, outcomes.write written data = .ok ()
  finish : outcomes.finish = .ok ()
  replace : outcomes.replace = .ok ()

/-- An operation failed, and the destination is as it was. -/
def Failed (outcomes : Outcomes) (d : Option Bytes) (_ : Exn) (disk : Disk) : Prop :=
  ¬ outcomes.Smooth ∧ disk.destination = d

variable {outcomes : Outcomes} {d : Option Bytes}

theorem outcome_triple {x : Py Unit} (hx : outcomes.Smooth → x = .ok ()) {P : Disk → Prop}
    (hP : ∀ disk, P disk → disk.destination = d) :
    Triple P (Proc.ofExcept x) (fun _ disk => P disk) (Failed outcomes d) := by
  apply Triple.ofExcept
  · exact fun _ _ _ h => h
  · intro e disk herror h
    refine ⟨fun hsmooth => ?_, hP disk h⟩
    rw [hx hsmooth] at herror
    cases herror

theorem write_triple (written data : Bytes) :
    Triple (fun disk => disk = ⟨d, some written⟩) (write outcomes data)
      (fun _ disk => disk = ⟨d, some (written ++ data)⟩) (Failed outcomes d) := by
  unfold write
  apply Triple.bind (Q := fun disk' disk => disk' = ⟨d, some written⟩ ∧ disk = ⟨d, some written⟩)
  · exact Triple.get fun disk h => ⟨h, h⟩
  · intro disk'
    apply Triple.bind (outcome_triple (fun hsmooth => hsmooth.write _ _) ?_)
    · intro _
      apply Triple.modify
      rintro disk ⟨-, rfl⟩
      rfl
    · rintro disk ⟨-, rfl⟩
      rfl

theorem makeTemporary_triple : Triple (fun disk => disk.destination = d)
    (makeTemporary outcomes) (fun _ disk => disk = ⟨d, some []⟩) (Failed outcomes d) := by
  unfold makeTemporary
  apply Triple.bind (outcome_triple (fun hsmooth => hsmooth.prepare) fun _ h => h)
  intro _
  apply Triple.modify
  rintro disk rfl
  rfl

theorem moveFile_triple (written : Bytes) :
    Triple (fun disk => disk = ⟨d, some written⟩) (moveFile outcomes)
      (fun _ disk => disk = ⟨some written, none⟩) (Failed outcomes d) := by
  have hkeep : ∀ disk : Disk, disk = ⟨d, some written⟩ → disk.destination = d := by
    rintro disk rfl
    rfl
  unfold moveFile
  apply Triple.bind (outcome_triple (fun hsmooth => hsmooth.finish) hkeep)
  intro _
  apply Triple.bind (outcome_triple (fun hsmooth => hsmooth.replace) hkeep)
  intro _
  apply Triple.modify
  rintro disk rfl
  rfl

/-- Removing the temporary file does not touch the destination. -/
theorem unlink_destination (disk : Disk) :
    (unlink outcomes disk).destination = disk.destination := by
  unfold unlink
  split <;> rfl

theorem unlink_failed (e : Exn) (disk : Disk) (h : Failed outcomes d e disk) :
    Failed outcomes d e (unlink outcomes disk) := ⟨h.1, (unlink_destination disk).trans h.2⟩

/-- **The loop over a plaintext** appends what the encryptor puts out for it. -/
theorem encryptChunks_triple (outcomes : Outcomes) (d : Option Bytes) {put : Bytes → Bytes}
    (hput : Streams put) (front fed rest : Bytes) :
    Triple (fun disk => disk = ⟨d, some (front ++ put fed)⟩)
      (encryptChunks outcomes put fed rest)
      (fun _ disk => disk = ⟨d, some (front ++ put (fed ++ rest))⟩) (Failed outcomes d) := by
  induction hlength : rest.length using Nat.strong_induction_on generalizing fed rest with
  | _ n ih =>
    unfold encryptChunks
    apply Triple.bind (outcome_triple (fun hsmooth => hsmooth.read _) ?_)
    · intro _
      split
      · rename_i hnil
        apply Triple.pure
        rintro disk rfl
        rw [hnil, List.append_nil]
      · rename_i hne
        apply Triple.bind (write_triple _ _)
        intro _
        rw [List.append_assoc front, append_update hput]
        have hshorter : (rest.drop encryptionChunkBytes).length < n := by
          rw [← hlength, List.length_drop]
          exact Nat.sub_lt (List.length_pos_iff.mpr hne) (by decide)
        have hloop := ih _ hshorter (fed ++ rest.take encryptionChunkBytes) _ rfl
        rwa [List.append_assoc fed, List.take_append_drop] at hloop
    · rintro disk rfl
      rfl

/-- **The loop over a ciphertext** appends what the decryptor puts out for it. -/
theorem decryptChunks_triple (outcomes : Outcomes) (d : Option Bytes) {put : Bytes → Bytes}
    (hput : Streams put) (fed rest : Bytes) {remaining : Nat} (hrest : remaining ≤ rest.length) :
    Triple (fun disk => disk = ⟨d, some (put fed)⟩)
      (decryptChunks outcomes put fed rest remaining)
      (fun fed' disk => fed' = fed ++ rest.take remaining ∧ disk = ⟨d, some (put fed')⟩)
      (Failed outcomes d) := by
  induction remaining using Nat.strong_induction_on generalizing fed rest with
  | _ n ih =>
    unfold decryptChunks
    split
    · rename_i hzero
      apply Triple.pure
      rintro disk rfl
      rw [hzero, List.take_zero, List.append_nil]
      exact ⟨rfl, rfl⟩
    · rename_i hpos
      apply Triple.bind (outcome_triple (fun hsmooth => hsmooth.read _) ?_)
      · intro _
        have hchunk : (rest.take (min encryptionChunkBytes n)).length =
            min encryptionChunkBytes n := by
          rw [List.length_take]
          omega
        have hsome : 0 < min encryptionChunkBytes n :=
          Nat.lt_min.mpr ⟨by decide, Nat.pos_of_ne_zero hpos⟩
        dsimp only
        split
        · rename_i hnil
          -- there is a chunk while some bytes remain
          rw [hnil, List.length_nil] at hchunk
          omega
        · apply Triple.bind (write_triple _ _)
          intro _
          rw [append_update hput, hchunk]
          have hle : min encryptionChunkBytes n ≤ n := Nat.min_le_right _ _
          have hremain : n - min encryptionChunkBytes n ≤
              (rest.drop (min encryptionChunkBytes n)).length := by
            rw [List.length_drop]
            omega
          have hloop := ih _ (by omega) (fed ++ rest.take (min encryptionChunkBytes n)) _ hremain
          rwa [List.append_assoc fed, ← List.take_add, Nat.add_sub_cancel' hle] at hloop
      · rintro disk rfl
        rfl

/-! ## Whole runs -/

section Runs

variable {scrypt : Bytes → Bytes → Bytes} {floatIs : Int → String → Bool} {cipher : Cipher}
  {made : Set Encryption} {passphrase : Bytes}

/-- The passphrase passes `_validate_passphrase`. -/
def Accepted (passphrase : Bytes) : Prop := 12 ≤ passphrase.length ∧ passphrase.length ≤ 1024

theorem deriveBackupKey_eq_ok {salt key : Bytes} :
    deriveBackupKey scrypt passphrase salt = .ok key ↔
      Accepted passphrase ∧ scrypt passphrase salt = key := by
  rw [deriveBackupKey, bind_eq_ok, Accepted]
  simp only [validatePassphrase, raiseIf_bind_eq_ok, pure_eq_ok, Except.ok.injEq, Nat.not_lt]
  constructor
  · rintro ⟨_, ⟨hshort, hlong, rfl⟩, hkey⟩
    exact ⟨⟨hshort, hlong⟩, hkey⟩
  · rintro ⟨⟨hshort, hlong⟩, hkey⟩
    exact ⟨passphrase, ⟨hshort, hlong, rfl⟩, hkey⟩

/-- The encryption that stands behind a header line. -/
def encryptionOf (scrypt : Bytes → Bytes → Bytes) (passphrase header salt nonce plaintext : Bytes) :
    Encryption where
  key := scrypt passphrase salt
  nonce := nonce
  associated := encryptedMagic ++ header
  plaintext := plaintext

/-- Magic, header, ciphertext and tag. -/
def fileOf (cipher : Cipher) (header : Bytes) (e : Encryption) : Bytes :=
  encryptedMagic ++ (header ++ cipher.seal e)

/-- **Encryption** writes magic, header, ciphertext and tag, or fails and leaves the destination. -/
theorem encrypt_triple (hcipher : Lawful cipher made) (plaintext salt nonce : Bytes) :
    Triple (fun disk => disk.destination = d)
      (encryptBackupFile scrypt cipher outcomes plaintext passphrase salt nonce)
      (fun _ disk => disk = ⟨some (fileOf cipher (encryptedHeader salt nonce)
        (encryptionOf scrypt passphrase (encryptedHeader salt nonce) salt nonce plaintext)), none⟩)
      (fun _ disk => disk.destination = d ∧ ¬ (outcomes.Smooth ∧ Accepted passphrase)) := by
  have hfailed : ∀ (e : Exn) (disk : Disk), Failed outcomes d e disk →
      disk.destination = d ∧ ¬ (outcomes.Smooth ∧ Accepted passphrase) :=
    fun _ _ h => ⟨h.2, fun hboth => h.1 hboth.1⟩
  unfold encryptBackupFile
  apply Triple.bind (Q := fun key disk => key = scrypt passphrase salt ∧ disk.destination = d)
  · apply Triple.ofExcept
    · intro key disk hkey h
      exact ⟨(deriveBackupKey_eq_ok.mp hkey).2.symm, h⟩
    · intro e disk herror h
      refine ⟨h, fun hboth => ?_⟩
      rw [deriveBackupKey_eq_ok.mpr ⟨hboth.2, rfl⟩] at herror
      cases herror
  · intro key
    refine Triple.bind (Q := fun _ disk => key = scrypt passphrase salt ∧ disk = ⟨d, some []⟩) ?_ ?_
    · intro disk hdisk
      obtain ⟨hkey, hdisk⟩ := hdisk
      refine (Triple.weaken makeTemporary_triple (fun _ h => h) ?_ hfailed) disk hdisk
      exact fun _ _ h => ⟨hkey, h⟩
    · intro _
      refine Triple.onError ?_ fun e disk h => hfailed e _ (unlink_failed e disk h)
      intro disk hdisk
      obtain ⟨rfl, rfl⟩ := hdisk
      generalize hassociated : encryptedMagic ++ encryptedHeader salt nonce = associated
      have hopen : Triple (fun disk => disk = (⟨d, some []⟩ : Disk))
          (Proc.ofExcept outcomes.opened) (fun _ disk => disk = (⟨d, some []⟩ : Disk))
          (Failed outcomes d) := by
        apply outcome_triple fun hsmooth => hsmooth.opened
        rintro disk rfl
        rfl
      have hchunks := encryptChunks_triple outcomes d
        (hcipher.encrypted_streams (scrypt passphrase salt) nonce associated)
        (encryptedMagic ++ encryptedHeader salt nonce) [] plaintext
      rw [hcipher.encrypted_nil, List.append_nil, List.nil_append] at hchunks
      refine Triple.bind hopen ?_ _ rfl
      intro _
      apply Triple.bind (write_triple _ _)
      intro _
      apply Triple.bind (write_triple _ _)
      intro _
      apply Triple.bind hchunks
      intro _
      apply Triple.bind (write_triple _ _)
      intro _
      refine Triple.weaken (moveFile_triple _) (fun _ h => h) ?_ fun _ _ h => h
      rintro _ disk rfl
      simp only [fileOf, encryptionOf, Cipher.seal, ← hassociated, List.append_assoc]

/-- The file is one whose tag verifies. -/
structure Opens (scrypt : Bytes → Bytes → Bytes) (floatIs : Int → String → Bool) (cipher : Cipher)
    (passphrase file : Bytes) (frame : Frame) (ciphertext : Bytes) : Prop where
  frame_eq : openFrame floatIs file = .ok frame
  parts : Parts floatIs file frame ciphertext
  accepted : Accepted passphrase
  verifies : cipher.verifies (scrypt passphrase frame.salt) frame.nonce
    (encryptedMagic ++ frame.header) ciphertext frame.tag = true

/-- The destination is as it was, and the file does not open or an operation failed. -/
def Refused (scrypt : Bytes → Bytes → Bytes) (floatIs : Int → String → Bool) (cipher : Cipher)
    (outcomes : Outcomes) (passphrase file : Bytes) (d : Option Bytes) (disk : Disk) : Prop :=
  disk.destination = d ∧ ¬ (outcomes.Smooth ∧
    ∃ frame ciphertext, Opens scrypt floatIs cipher passphrase file frame ciphertext)

/-- **Decryption** writes what the decryptor puts out for the ciphertext of a file that opens, or
raises and leaves the destination. -/
theorem decrypt_triple (hcipher : Lawful cipher made) (file : Bytes) :
    Triple (fun disk => disk.destination = d)
      (decryptBackupFile scrypt floatIs cipher outcomes (some file) passphrase)
      (fun _ disk => ∃ frame ciphertext,
        Opens scrypt floatIs cipher passphrase file frame ciphertext ∧
        disk = ⟨some (cipher.decrypted (scrypt passphrase frame.salt) frame.nonce
          (encryptedMagic ++ frame.header) ciphertext), none⟩)
      (fun _ disk => Refused scrypt floatIs cipher outcomes passphrase file d disk) := by
  have hfailed : ∀ (e : Exn) (disk : Disk), Failed outcomes d e disk →
      Refused scrypt floatIs cipher outcomes passphrase file d disk :=
    fun _ _ h => ⟨h.2, fun hboth => h.1 hboth.1⟩
  unfold decryptBackupFile
  rw [getOrRaise_some]
  apply Triple.bind (Q := fun file' disk => file' = file ∧ disk.destination = d)
  · apply Triple.ofExcept
    · intro file' disk heq h
      exact ⟨(Except.ok.inj heq).symm, h⟩
    · intro e disk herror
      cases herror
  intro file'
  apply Triple.bind (Triple.weaken (outcome_triple (fun hsmooth : outcomes.Smooth => hsmooth.opened)
    fun _ h => h.2) (fun _ h => h) (fun _ _ h => h) hfailed)
  intro _
  apply Triple.bind (Q := fun frame disk => file' = file ∧ openFrame floatIs file = .ok frame ∧
    disk.destination = d)
  · apply Triple.ofExcept
    · rintro frame disk hframe ⟨rfl, h⟩
      exact ⟨rfl, hframe, h⟩
    · rintro e disk herror ⟨rfl, h⟩
      refine ⟨h, ?_⟩
      rintro ⟨-, frame, ciphertext, hopens⟩
      rw [hopens.frame_eq] at herror
      cases herror
  intro frame
  apply Triple.bind (Q := fun key disk => file' = file ∧ openFrame floatIs file = .ok frame ∧
    Accepted passphrase ∧ key = scrypt passphrase frame.salt ∧ disk.destination = d)
  · apply Triple.ofExcept
    · rintro key disk hkey ⟨rfl, hframe, h⟩
      obtain ⟨haccepted, rfl⟩ := deriveBackupKey_eq_ok.mp hkey
      exact ⟨rfl, hframe, haccepted, rfl, h⟩
    · rintro e disk herror ⟨rfl, hframe, h⟩
      refine ⟨h, ?_⟩
      rintro ⟨-, _, _, hopens⟩
      rw [deriveBackupKey_eq_ok.mpr ⟨hopens.accepted, rfl⟩] at herror
      cases herror
  intro key disk hdisk
  obtain ⟨rfl, hframe, haccepted, rfl, hdestination⟩ := hdisk
  obtain ⟨ciphertext, hparts⟩ := openFrame_eq_ok hframe
  refine (Triple.bind (Triple.weaken makeTemporary_triple (fun _ h => h) (fun _ _ h => h) hfailed)
    fun _ => ?_) disk hdestination
  have hremaining : frame.ciphertextLength ≤ (file'.drop frame.dataStart).length := by
    rw [hparts.drop, hparts.ciphertextLength, List.length_append]
    exact Nat.le_add_right _ _
  have hchunks := decryptChunks_triple outcomes d
    (hcipher.decrypted_streams (scrypt passphrase frame.salt) frame.nonce
      (encryptedMagic ++ frame.header)) [] (file'.drop frame.dataStart) hremaining
  rw [hcipher.decrypted_nil, List.nil_append, hparts.drop, hparts.ciphertextLength,
    List.take_left] at hchunks
  rw [hparts.drop, hparts.ciphertextLength]
  have hrepair : ∀ disk, Refused scrypt floatIs cipher outcomes passphrase file' d disk →
      Refused scrypt floatIs cipher outcomes passphrase file' d (unlink outcomes disk) :=
    fun disk h => ⟨(unlink_destination disk).trans h.1, h.2⟩
  refine Triple.onError ?_ fun _ disk h => hrepair disk h
  apply Triple.bind (Triple.weaken hchunks (fun _ h => h) (fun _ _ h => h) hfailed)
  intro fed
  apply Triple.bind (Q := fun _ disk => (cipher.verifies (scrypt passphrase frame.salt)
    frame.nonce (encryptedMagic ++ frame.header) ciphertext frame.tag = true) ∧
      disk = ⟨d, some (cipher.decrypted (scrypt passphrase frame.salt) frame.nonce
        (encryptedMagic ++ frame.header) ciphertext)⟩)
  · apply Triple.ofExcept
    · rintro _ disk hverifies ⟨rfl, rfl⟩
      exact ⟨require_eq_ok.mp hverifies, rfl⟩
    · rintro e disk herror ⟨rfl, rfl⟩
      refine ⟨rfl, ?_⟩
      rintro ⟨-, frame', ciphertext', hopens⟩
      obtain rfl := Except.ok.inj (hframe.symm.trans hopens.frame_eq)
      have hciphertext : fed = ciphertext' := by
        have hdrop := hparts.drop.symm.trans hopens.parts.drop
        exact List.append_cancel_right hdrop
      subst hciphertext
      rw [require_of hopens.verifies] at herror
      cases herror
  · rintro _ disk ⟨hverifies, rfl⟩
    refine Triple.weaken (moveFile_triple _) (fun _ h => h) ?_ hfailed _ rfl
    rintro _ disk rfl
    exact ⟨frame, ciphertext, ⟨hframe, hparts, haccepted, hverifies⟩, rfl⟩

/-! ## The law -/

/-- **What encrypted backups are good for.**  A file that was written is decrypted to its plaintext;
decryption that raises leaves the destination as it was; and a file that is decrypted is the magic,
a header, the ciphertext and the tag of an encryption that was made under the passphrase, and no
other file when no other was. -/
structure BackupLaw (scrypt : Bytes → Bytes → Bytes) (floatIs : Int → String → Bool)
    (cipher : Cipher) (made : Set Encryption) (passphrase : Bytes) : Prop where
  written : Accepted passphrase → ∀ plaintext salt nonce outcomes, outcomes.Smooth → ∀ disk,
    ∃ disk', encryptBackupFile scrypt cipher outcomes plaintext passphrase salt nonce disk =
      (.ok (), disk')
  round_trip : Accepted passphrase → ∀ plaintext salt nonce, plaintext ≠ [] → salt.length = 16 →
    nonce.length = 12 →
    encryptionOf scrypt passphrase (encryptedHeader salt nonce) salt nonce plaintext ∈ made →
    ∀ outcomes disk disk',
      encryptBackupFile scrypt cipher outcomes plaintext passphrase salt nonce disk =
        (.ok (), disk') →
      ∀ outcomes', outcomes'.Smooth → ∀ disk₀,
        decryptBackupFile scrypt floatIs cipher outcomes' disk'.destination passphrase disk₀ =
          (.ok (), ⟨some plaintext, none⟩)
  unchanged : ∀ outcomes encrypted disk e disk',
    decryptBackupFile scrypt floatIs cipher outcomes encrypted passphrase disk =
      (.error e, disk') → disk'.destination = disk.destination
  is_sealed : ∀ outcomes file disk disk',
    decryptBackupFile scrypt floatIs cipher outcomes (some file) passphrase disk = (.ok (), disk') →
    ∃ header salt nonce plaintext, parseEncryptedHeader floatIs header = .ok (salt, nonce) ∧
      encryptionOf scrypt passphrase header salt nonce plaintext ∈ made ∧
      file = fileOf cipher header (encryptionOf scrypt passphrase header salt nonce plaintext) ∧
      disk'.destination = some plaintext
  single : ∀ e₀, (∀ e ∈ made, (∃ salt, e.key = scrypt passphrase salt) → e = e₀) →
    ∀ outcomes file disk disk' outcomes' file' disk₀ disk₀',
      decryptBackupFile scrypt floatIs cipher outcomes (some file) passphrase disk =
        (.ok (), disk') →
      decryptBackupFile scrypt floatIs cipher outcomes' (some file') passphrase disk₀ =
        (.ok (), disk₀') → file = file'

/-- A file that is decrypted is that of an encryption. -/
theorem sealed_of_decrypted (hcipher : Lawful cipher made) {file : Bytes} {disk disk' : Disk}
    (h : decryptBackupFile scrypt floatIs cipher outcomes (some file) passphrase disk =
      (.ok (), disk')) :
    ∃ header salt nonce plaintext, parseEncryptedHeader floatIs header = .ok (salt, nonce) ∧
      encryptionOf scrypt passphrase header salt nonce plaintext ∈ made ∧
      file = fileOf cipher header (encryptionOf scrypt passphrase header salt nonce plaintext) ∧
      disk'.destination = some plaintext := by
  obtain ⟨frame, ciphertext, hopens, rfl⟩ := (decrypt_triple hcipher file).of_ok rfl h
  obtain ⟨plaintext, hmade, hciphertext, htag⟩ :=
    (hcipher.verifies_iff _ _ _ _ _).mp hopens.verifies
  refine ⟨frame.header, frame.salt, frame.nonce, plaintext, hopens.parts.header, hmade, ?_, ?_⟩
  · rw [hopens.parts.file_eq, ← hciphertext, ← htag]
    rfl
  · rw [← hciphertext, hcipher.decrypted_encrypted]

/-- A file opens in one way. -/
theorem Opens.unique {file ciphertext ciphertext' : Bytes} {frame frame' : Frame}
    (h : Opens scrypt floatIs cipher passphrase file frame ciphertext)
    (h' : Opens scrypt floatIs cipher passphrase file frame' ciphertext') :
    frame = frame' ∧ ciphertext = ciphertext' := by
  obtain rfl := Except.ok.inj (h.frame_eq.symm.trans h'.frame_eq)
  exact ⟨rfl, List.append_cancel_right (h.parts.drop.symm.trans h'.parts.drop)⟩

/-- A file that opens is decrypted, when every operation succeeds. -/
theorem decrypt_of_opens (hcipher : Lawful cipher made) {file ciphertext : Bytes} {frame : Frame}
    (h : Opens scrypt floatIs cipher passphrase file frame ciphertext) (hsmooth : outcomes.Smooth)
    (disk : Disk) :
    decryptBackupFile scrypt floatIs cipher outcomes (some file) passphrase disk =
      (.ok (), ⟨some (cipher.decrypted (scrypt passphrase frame.salt) frame.nonce
        (encryptedMagic ++ frame.header) ciphertext), none⟩) := by
  obtain ⟨_, disk', hrun, frame', ciphertext', hopens, rfl⟩ :=
    (decrypt_triple hcipher file).returns rfl fun _ _ hrefused => hrefused.2 ⟨hsmooth, _, _, h⟩
  obtain ⟨rfl, rfl⟩ := h.unique hopens
  exact hrun

/-- **A written file opens.** -/
theorem opens_written (floatIs : Int → String → Bool) (hcipher : Lawful cipher made)
    (haccepted : Accepted passphrase) {plaintext salt nonce : Bytes} (hne : plaintext ≠ [])
    (hsalt : salt.length = 16) (hnonce : nonce.length = 12)
    (hmade : encryptionOf scrypt passphrase (encryptedHeader salt nonce) salt nonce plaintext ∈
      made) :
    Opens scrypt floatIs cipher passphrase (fileOf cipher (encryptedHeader salt nonce)
        (encryptionOf scrypt passphrase (encryptedHeader salt nonce) salt nonce plaintext))
      (writtenFrame salt nonce
        (cipher.encrypted (scrypt passphrase salt) nonce
          (encryptedMagic ++ encryptedHeader salt nonce) plaintext)
        (cipher.tag (scrypt passphrase salt) nonce
          (encryptedMagic ++ encryptedHeader salt nonce) plaintext))
      (cipher.encrypted (scrypt passphrase salt) nonce
        (encryptedMagic ++ encryptedHeader salt nonce) plaintext) := by
  have hciphertext : cipher.encrypted (scrypt passphrase salt) nonce
      (encryptedMagic ++ encryptedHeader salt nonce) plaintext ≠ [] := by
    intro hnil
    have hlength := hcipher.encrypted_length (scrypt passphrase salt) nonce
      (encryptedMagic ++ encryptedHeader salt nonce) plaintext
    rw [hnil] at hlength
    exact hne (List.length_eq_zero_iff.mp hlength.symm)
  have htag := hcipher.tag_length (scrypt passphrase salt) nonce
    (encryptedMagic ++ encryptedHeader salt nonce) plaintext
  have hparse := parse_encryptedHeader floatIs hsalt hnonce
  have hframe := openFrame_written floatIs hsalt hnonce hciphertext htag
  constructor
  · simp only [fileOf, Cipher.seal, encryptionOf]
    exact hframe
  · constructor
    · simp only [fileOf, Cipher.seal, encryptionOf, writtenFrame]
    · simp only [writtenFrame, hparse]
    · simp only [writtenFrame]
    · simp only [writtenFrame]
  · exact haccepted
  · simp only [writtenFrame]
    rw [hcipher.verifies_iff]
    exact ⟨plaintext, hmade, Eq.refl _, Eq.refl _⟩

/-- **Encrypted backups**, with a lawful cipher. -/
theorem encrypted_backup_law (scrypt : Bytes → Bytes → Bytes) (floatIs : Int → String → Bool)
    (hcipher : Lawful cipher made) (passphrase : Bytes) :
    BackupLaw scrypt floatIs cipher made passphrase := by
  refine ⟨?_, ?_, ?_, ?_, ?_⟩
  · intro haccepted plaintext salt nonce outcomes hsmooth disk
    obtain ⟨_, disk', hrun, -⟩ := (encrypt_triple (d := disk.destination) hcipher plaintext salt
      nonce).returns rfl fun _ _ h => h.2 ⟨hsmooth, haccepted⟩
    exact ⟨disk', hrun⟩
  · intro haccepted plaintext salt nonce hne hsalt hnonce hmade outcomes disk disk' hrun outcomes'
      hsmooth disk₀
    obtain rfl :=
      (encrypt_triple (d := disk.destination) hcipher plaintext salt nonce).of_ok rfl hrun
    have hrun' := decrypt_of_opens hcipher
      (opens_written floatIs hcipher haccepted hne hsalt hnonce hmade) hsmooth disk₀
    simp only [writtenFrame, hcipher.decrypted_encrypted] at hrun'
    exact hrun'
  · intro outcomes encrypted disk e disk' hrun
    cases encrypted with
    | none =>
      rcases Proc.ofExcept_cases hrun with ⟨_, -, hsame⟩ | ⟨_, hnone, -⟩
      · exact congrArg Disk.destination hsame
      · cases hnone
    | some file => exact ((decrypt_triple hcipher file).of_error rfl hrun).1
  · intro outcomes file disk disk' hrun
    exact sealed_of_decrypted hcipher hrun
  · intro e₀ hsingle outcomes file disk disk' outcomes' file' disk₀ disk₀' hrun hrun'
    obtain ⟨header, salt, nonce, plaintext, -, hmade, rfl, -⟩ := sealed_of_decrypted hcipher hrun
    obtain ⟨header', salt', nonce', plaintext', -, hmade', rfl, -⟩ :=
      sealed_of_decrypted hcipher hrun'
    have hsame := (hsingle _ hmade ⟨salt, rfl⟩).trans (hsingle _ hmade' ⟨salt', rfl⟩).symm
    obtain rfl : header = header' :=
      List.append_cancel_left (congrArg Encryption.associated hsame)
    rw [hsame]

end Runs

/-! ### One passphrase, salt and nonce -/

def samplePassphrase : Bytes := encode "correct horse battery staple".toList

def sampleSalt : Bytes := (List.range 16).map UInt8.ofNat

def sampleNonce : Bytes := (List.range 12).map UInt8.ofNat

/-- The key that scrypt derives of the passphrase and the salt. -/
def sampleKey : Bytes :=
  [215, 89, 10, 202, 44, 152, 1, 207, 6, 238, 186, 119, 42, 105, 220, 49, 206, 56, 98, 89, 29, 150,
    82, 42, 196, 230, 187, 166, 173, 31, 49, 165]

/-- scrypt at the passphrase and the salt. -/
def sampleScrypt (passphrase salt : Bytes) : Bytes :=
  if passphrase = samplePassphrase ∧ salt = sampleSalt then sampleKey else List.replicate 32 0

/-- The beginning of AES-256-GCM's keystream at the key and the nonce. -/
def sampleKeystream (key nonce : Bytes) (i : Nat) : UInt8 :=
  if key = sampleKey ∧ nonce = sampleNonce then [30, 252].getD i 0 else 0

/-- The tag of AES-256-GCM at the key, the nonce and the header, for the plaintext `PK`. -/
def sampleTag (key nonce associated plaintext : Bytes) : Bytes :=
  if key = sampleKey ∧ nonce = sampleNonce ∧
      associated = encryptedMagic ++ encryptedHeader sampleSalt sampleNonce ∧
      plaintext = encode ['P', 'K'] then
    [116, 33, 253, 213, 97, 210, 245, 162, 239, 181, 94, 69, 140, 138, 10, 89]
  else List.replicate 16 0

theorem length_sampleTag (key nonce associated plaintext : Bytes) :
    (sampleTag key nonce associated plaintext).length = 16 := by
  unfold sampleTag
  split
  · rfl
  · exact List.length_replicate

/-- The law, at one passphrase. -/
theorem encrypted_backup_of_sample :
    BackupLaw sampleScrypt (fun k literal => literal = toString k ++ ".0")
      (ofKeystream sampleKeystream sampleTag) Set.univ samplePassphrase :=
  encrypted_backup_law sampleScrypt _ (lawful_ofKeystream sampleKeystream length_sampleTag)
    samplePassphrase

end NightRecon.RedEngine.WorkspaceEncryption
