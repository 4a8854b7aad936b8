import NightRecon.Lib.JsonReader

/-!
# JSON bytes, read strictly

`json.loads` of a byte string with hooks that refuse a key that occurs again and the words that
are no JSON numbers.

* `detectEncoding`, `decode` — the encoding of the bytes, and their text; `decode_encode` says that
  a UTF-8 text whose first two characters are ASCII is decoded as it was;
* `loadsStrict` — the reader; `plain` — the values it reads back, `loadsStrict_dumps`;
* `loadsBytes_dumps` — **the ASCII text of a plain object is read back from its bytes**.
-/

namespace NightRecon.Lib.Json

/-! ## Encodings -/

/-- The encodings of JSON bytes; those without an order begin with a byte order mark. -/
inductive Encoding where
  | utf8
  | utf8Sig
  | utf16
  | utf16be
  | utf16le
  | utf32
  | utf32be
  | utf32le

/-- `json.detect_encoding`. -/
def detectEncoding (b : List UInt8) : Encoding :=
  if [0x00, 0x00, 0xfe, 0xff].isPrefixOf b ∨ [0xff, 0xfe, 0x00, 0x00].isPrefixOf b then .utf32
  else if [0xfe, 0xff].isPrefixOf b ∨ [0xff, 0xfe].isPrefixOf b then .utf16
  else if [0xef, 0xbb, 0xbf].isPrefixOf b then .utf8Sig
  else
    match b with
    | b0 :: b1 :: b2 :: b3 :: _ =>
        if b0 = 0 then if b1 = 0 then .utf32be else .utf16be
        else if b1 = 0 then if b2 = 0 ∧ b3 = 0 then .utf32le else .utf16le
        else .utf8
    | [b0, b1] => if b0 = 0 then .utf16be else if b1 = 0 then .utf16le else .utf8
    | _ => .utf8

/-- The text of UTF-8 bytes. -/
def decodeUtf8 (b : List UInt8) : Option (List Char) :=
  b.toByteArray.utf8Decode?.map Array.toList

/-- A code point that is no surrogate. -/
def charOfNat (n : Nat) : Option Char := if n.isValidChar then some (Char.ofNat n) else none

/-- The 16-bit units of bytes, in the order given. -/
def units16 (big : Bool) : List UInt8 → Option (List Nat)
  | [] => some []
  | [_] => none
  | x :: y :: rest => do
      let hi := if big then x else y
      let lo := if big then y else x
      let units ← units16 big rest
      some ((hi.toNat * 256 + lo.toNat) :: units)

/-- The text of 16-bit units: two surrogates stand for one character. -/
def charsOf16 : List Nat → Option (List Char)
  | [] => some []
  | [u] => do
      let c ← charOfNat u
      some [c]
  | u :: v :: rest =>
      if 0xd800 ≤ u ∧ u < 0xdc00 ∧ 0xdc00 ≤ v ∧ v < 0xe000 then do
        let c ← charOfNat (0x10000 + (u - 0xd800) * 0x400 + (v - 0xdc00))
        let cs ← charsOf16 rest
        some (c :: cs)
      else do
        let c ← charOfNat u
        let cs ← charsOf16 (v :: rest)
        some (c :: cs)

/-- The text of 32-bit units, in the order given. -/
def chars32 (big : Bool) : List UInt8 → Option (List Char)
  | [] => some []
  | w :: x :: y :: z :: rest => do
      let n := if big then ((w.toNat * 256 + x.toNat) * 256 + y.toNat) * 256 + z.toNat
        else ((z.toNat * 256 + y.toNat) * 256 + x.toNat) * 256 + w.toNat
      let c ← charOfNat n
      let cs ← chars32 big rest
      some (c :: cs)
  | _ => none

/-- `b.decode(json.detect_encoding(b), "surrogatepass")`, for texts without lone surrogates. -/
def decode (b : List UInt8) : Option (List Char) :=
  match detectEncoding b with
  | .utf8 => decodeUtf8 b
  | .utf8Sig => decodeUtf8 (b.drop 3)
  | .utf16 => (units16 (b.head? = some 0xfe) (b.drop 2)).bind charsOf16
  | .utf16be => (units16 true b).bind charsOf16
  | .utf16le => (units16 false b).bind charsOf16
  | .utf32 => chars32 (b.head? = some 0x00) (b.drop 4)
  | .utf32be => chars32 true b
  | .utf32le => chars32 false b

/-- `text.encode("utf-8")`. -/
def encode (text : List Char) : List UInt8 := text.flatMap String.utf8EncodeChar

theorem decodeUtf8_encode (text : List Char) : decodeUtf8 (encode text) = some text := by
  have hbytes : (encode text).toByteArray = text.utf8Encode := rfl
  rw [decodeUtf8, hbytes, List.utf8Decode?_utf8Encode, Option.map_some]

theorem encode_of_decodeUtf8 {b : List UInt8} {text : List Char}
    (h : decodeUtf8 b = some text) : encode text = b := by
  obtain ⟨decoded, hdecoded, rfl⟩ := Option.map_eq_some_iff.mp h
  have hsome : b.toByteArray.utf8Decode?.isSome = true := by rw [hdecoded]; rfl
  have hbytes : decoded.toList.utf8Encode = b.toByteArray := by
    rw [← ByteArray.utf8Encode_get_utf8Decode? (h := hsome)]
    simp only [hdecoded, Option.get_some]
  exact List.toByteArray_inj.mp hbytes

/-- Bytes that begin with a brace and another ASCII character are UTF-8. -/
theorem detectEncoding_brace {c : Char} (hc : c = '"' ∨ c = '\x7d') (text : List Char) :
    detectEncoding (encode ('\x7b' :: c :: text)) = .utf8 := by
  have hsplit : encode ('\x7b' :: c :: text) =
      0x7b :: (if c = '"' then 0x22 else 0x7d) :: encode text := by
    rcases hc with rfl | rfl <;> rfl
  rw [hsplit]
  generalize encode text = rest
  rcases hc with rfl | rfl
  · rcases rest with _ | ⟨x, _ | ⟨y, rest⟩⟩ <;> rfl
  · rcases rest with _ | ⟨x, _ | ⟨y, rest⟩⟩ <;> rfl

theorem decode_brace {c : Char} (hc : c = '"' ∨ c = '\x7d') (text : List Char) :
    decode (encode ('\x7b' :: c :: text)) = some ('\x7b' :: c :: text) := by
  rw [decode, detectEncoding_brace hc]
  exact decodeUtf8_encode _

/-! ## The strict reader -/

/-- `parse_constant` raises for these. -/
def isConstant : Json → Bool
  | .float literal => ["NaN", "Infinity", "-Infinity"].contains literal
  | _ => false

/-- A word or a number of JSON. -/
def strictScalar (l : List Char) : Option (Json × List Char) :=
  (readScalar l).filter fun r => !isConstant r.1

/-- `object_pairs_hook` refuses a key that occurs again. -/
def refuse (members : List (String × Json)) (key : String) (v : Json) :
    Option (List (String × Json)) :=
  if key ∈ members.map (·.1) then none else some (members ++ [(key, v)])

/-- The text of a value, or nothing. -/
def loadsStrict (s : String) : Option Json := loadsBy strictScalar refuse s

/-- The bytes of a value, or nothing. -/
def loadsBytes (b : List UInt8) : Option Json :=
  (decode b).bind fun text => loadsStrict (String.ofList text)

theorem strictScalar_eq_some {l r : List Char} {v : Json} :
    strictScalar l = some (v, r) ↔ readScalar l = some (v, r) ∧ isConstant v = false := by
  rw [strictScalar, Option.filter_eq_some_iff, Bool.not_eq_true']

theorem readsScalars_strict : ReadsScalars strictScalar where
  append h hstops := by
    obtain ⟨hread, hconstant⟩ := strictScalar_eq_some.mp h
    exact strictScalar_eq_some.mpr ⟨readScalar_append hread hstops, hconstant⟩
  head h := head_of_readScalar (strictScalar_eq_some.mp h).1
  null := rfl
  true := rfl
  false := rfl
  int n := strictScalar_eq_some.mpr ⟨readScalar_toString n, rfl⟩

theorem addsNew_refuse : AddsNew refuse := fun _ _ _ h => if_neg h

mutual

/-- The keys of each object differ, and there are no floats. -/
def plain : Json → Prop
  | .float _ => False
  | .arr elems => elemsPlain elems
  | .obj members => (members.map (·.1)).Nodup ∧ membersPlain members
  | _ => True

def elemsPlain : List Json → Prop
  | [] => True
  | j :: elems => plain j ∧ elemsPlain elems

def membersPlain : List (String × Json) → Prop
  | [] => True
  | (_, j) :: members => plain j ∧ membersPlain members

end

theorem elemsPlain_iff {l : List Json} : elemsPlain l ↔ ∀ j ∈ l, plain j := by
  induction l with
  | nil => exact iff_of_true trivial fun _ h => absurd h List.not_mem_nil
  | cons j l ih => rw [elemsPlain, ih, List.forall_mem_cons]

theorem membersPlain_iff {l : List (String × Json)} : membersPlain l ↔ ∀ m ∈ l, plain m.2 := by
  induction l with
  | nil => exact iff_of_true trivial fun _ h => absurd h List.not_mem_nil
  | cons m l ih => rw [membersPlain, ih, List.forall_mem_cons]

theorem readable_plain : Readable strictScalar plain where
  float h := absurd h not_false
  arr h := elemsPlain_iff.mp h
  obj h := ⟨h.1, membersPlain_iff.mp h.2⟩

/-- The ASCII text of a plain value is read back. -/
theorem loadsStrict_dumps {j : Json} (h : plain j) : loadsStrict (dumps j) = some (normal j) :=
  loadsBy_textBy readsScalars_strict readable_plain readsBack_asciiEscape addsNew_refuse h

/-- The text of an object begins with a brace and a quote, or is empty braces. -/
theorem dumps_obj_head (members : List (String × Json)) :
    ∃ c text, (dumps (.obj members)).toList = '\x7b' :: c :: text ∧ (c = '"' ∨ c = '\x7d') := by
  rw [dumps, String.toList_ofList, textBy_obj]
  rcases sortMembers members with _ | ⟨m, sorted⟩
  · exact ⟨'\x7d', [], rfl, .inr rfl⟩
  · obtain ⟨r, hr⟩ := intercalate_cons_append (memberBy asciiEscape m)
      (sorted.map (memberBy asciiEscape)) ['\x7d']
    refine ⟨'"', m.1.toList.flatMap asciiEscape ++ ('"' :: (':' :: (textBy asciiEscape m.2 ++ r))),
      ?_, .inl rfl⟩
    rw [List.cons_append, List.map_cons, hr, memberBy, memberText, quoteBy_append]
    simp only [List.cons_append, List.append_assoc]

/-- **The bytes of a plain object are read back.** -/
theorem loadsBytes_dumps {members : List (String × Json)} (h : plain (.obj members)) :
    loadsBytes (encode (dumps (.obj members)).toList) = some (normal (.obj members)) := by
  obtain ⟨c, text, htext, hc⟩ := dumps_obj_head members
  rw [loadsBytes, htext, decode_brace hc, ← htext, Option.bind_some, String.ofList_toList]
  exact loadsStrict_dumps h

end NightRecon.Lib.Json
