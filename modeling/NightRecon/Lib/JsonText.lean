import NightRecon.Lib.JsonParse

/-!
# JSON texts under any escaping of their strings

`json.dumps` writes string literals in one of two ways: characters outside ASCII as they are, or as
`\u` escapes.  Everything else of the text is the same.

* `textBy esc` — the text of a value whose characters are escaped by `esc`; `textBy_escapeChar` says
  that the canonical text is one of these;
* `dumps` — the text with every character outside ASCII escaped;
* `ReadsBack esc` — an escape the reader undoes; `readsBack_escapeChar`, `readsBack_asciiEscape`.
-/

namespace NightRecon.Lib.Json

open NightRecon.Lib.Text

/-! ## Writing -/

/-- A string literal whose characters are escaped by `esc`. -/
def quoteBy (esc : Char → List Char) (s : String) : List Char :=
  '"' :: s.toList.flatMap esc ++ ['"']

/-- One member of an object. -/
def memberText (esc : Char → List Char) (m : String × List Char) : List Char :=
  quoteBy esc m.1 ++ ':' :: m.2

/-- Members in the order of their keys. -/
def sortMembers {α : Type} (l : List (String × α)) : List (String × α) :=
  l.insertionSort fun a b => a.1 ≤ b.1

mutual

/-- The text of a value, as characters. -/
def textBy (esc : Char → List Char) : Json → List Char
  | .null => "null".toList
  | .bool b => (if b then "true" else "false").toList
  | .int n => (toString n).toList
  | .float literal => literal.toList
  | .str s => quoteBy esc s
  | .arr elems => '[' :: List.intercalate [','] (elemTexts esc elems) ++ [']']
  | .obj members =>
      '{' :: List.intercalate [','] ((sortMembers (memberTexts esc members)).map
        (memberText esc)) ++ ['}']

/-- The texts of a list's elements. -/
def elemTexts (esc : Char → List Char) : List Json → List (List Char)
  | [] => []
  | x :: xs => textBy esc x :: elemTexts esc xs

/-- The keys and value texts of an object's members. -/
def memberTexts (esc : Char → List Char) : List (String × Json) → List (String × List Char)
  | [] => []
  | (k, v) :: ms => (k, textBy esc v) :: memberTexts esc ms

end

theorem elemTexts_eq_map (esc : Char → List Char) (l : List Json) :
    elemTexts esc l = l.map (textBy esc) := by
  induction l with
  | nil => rfl
  | cons j l ih => rw [elemTexts, ih, List.map_cons]

theorem memberTexts_eq_map (esc : Char → List Char) (l : List (String × Json)) :
    memberTexts esc l = l.map fun m => (m.1, textBy esc m.2) := by
  induction l with
  | nil => rfl
  | cons m l ih => rw [memberTexts, ih, List.map_cons]

/-- Sorting by key does not look at the values. -/
theorem sortMembers_map {α β : Type} (f : α → β) (l : List (String × α)) :
    sortMembers (l.map fun m => (m.1, f m.2)) = (sortMembers l).map fun m => (m.1, f m.2) := by
  exact (List.map_insertionSort (r := fun a b : String × α => a.1 ≤ b.1)
    (s := fun a b : String × β => a.1 ≤ b.1) _ l fun _ _ _ _ => Iff.rfl).symm

theorem sortMembers_perm {α : Type} (l : List (String × α)) : (sortMembers l).Perm l :=
  List.perm_insertionSort _ l

/-- One member with its value written out. -/
def memberBy (esc : Char → List Char) (m : String × Json) : List Char :=
  memberText esc (m.1, textBy esc m.2)

theorem textBy_obj (esc : Char → List Char) (members : List (String × Json)) :
    textBy esc (.obj members) =
      '\x7b' :: List.intercalate [','] ((sortMembers members).map (memberBy esc)) ++ ['\x7d'] := by
  rw [textBy, memberTexts_eq_map, sortMembers_map, List.map_map]
  rfl

theorem textBy_arr (esc : Char → List Char) (elems : List Json) :
    textBy esc (.arr elems) = '[' :: List.intercalate [','] (elems.map (textBy esc)) ++ [']'] := by
  rw [textBy, elemTexts_eq_map]

/-- Objects with the same keys and texts of their values are written alike. -/
theorem textBy_obj_congr {esc : Char → List Char} {l l' : List (String × Json)}
    (h : memberTexts esc l = memberTexts esc l') : textBy esc (.obj l) = textBy esc (.obj l') := by
  rw [textBy, textBy, h]

/-- Lists with the same texts of their elements are written alike. -/
theorem textBy_arr_congr {esc : Char → List Char} {l l' : List Json}
    (h : l.map (textBy esc) = l'.map (textBy esc)) : textBy esc (.arr l) = textBy esc (.arr l') := by
  rw [textBy_arr, textBy_arr, h]

mutual

/-- **The canonical text escapes characters by `escapeChar`.** -/
theorem textBy_escapeChar : ∀ j : Json, textBy escapeChar j = chars j
  | .null | .bool _ | .int _ | .float _ | .str _ => rfl
  | .arr elems => by rw [textBy, chars, elemTexts_escapeChar elems]
  | .obj members => by rw [textBy, chars, memberTexts_escapeChar members]; rfl

theorem elemTexts_escapeChar : ∀ l : List Json, elemTexts escapeChar l = elemChars l
  | [] => rfl
  | j :: l => by rw [elemTexts, elemChars, textBy_escapeChar j, elemTexts_escapeChar l]

theorem memberTexts_escapeChar :
    ∀ l : List (String × Json), memberTexts escapeChar l = memberChars l
  | [] => rfl
  | (k, j) :: l => by
      rw [memberTexts, memberChars, textBy_escapeChar j, memberTexts_escapeChar l]

end

/-! ## Escaping everything outside ASCII -/

/-- A `\u` escape of a 16-bit code unit. -/
def unicodeEscape (u : Nat) : List Char :=
  ['\\', 'u', hexDigit (u / 4096), hexDigit (u / 256 % 16), hexDigit (u / 16 % 16),
    hexDigit (u % 16)]

/-- One character inside a string literal of an ASCII text. -/
def asciiEscape (c : Char) : List Char :=
  if c.toNat < 127 then escapeChar c
  else if c.toNat < 0x10000 then unicodeEscape c.toNat
  else unicodeEscape (0xd800 + (c.toNat - 0x10000) / 0x400) ++
    unicodeEscape (0xdc00 + (c.toNat - 0x10000) % 0x400)

/-- `json.dumps(value, sort_keys=True, separators=(",", ":"))`. -/
def dumps (j : Json) : String := String.ofList (textBy asciiEscape j)

/-! ## Reading escapes back -/

/-- The reader of string literals undoes the escape. -/
structure ReadsBack (esc : Char → List Char) : Prop where
  read : ∀ n c rest, readString (n + 1) (esc c ++ rest) =
    (readString n rest).map fun r => (c :: r.1, r.2)
  ne_nil : ∀ c, esc c ≠ []

theorem escapeChar_ne_nil (c : Char) : escapeChar c ≠ [] := by
  unfold escapeChar
  split_ifs <;> simp

theorem readsBack_escapeChar : ReadsBack escapeChar := ⟨readString_escapeChar, escapeChar_ne_nil⟩

/-- Four digits read back. -/
theorem readHex4_unicodeEscape {u : Nat} (hu : u < 0x10000) (rest : List Char) :
    readHex4 (hexDigit (u / 4096) :: hexDigit (u / 256 % 16) :: hexDigit (u / 16 % 16) ::
      hexDigit (u % 16) :: rest) = some (u, rest) := by
  have h₁ := hexVal_hexDigit (u / 4096) (by omega)
  have h₂ := hexVal_hexDigit (u / 256 % 16) (by omega)
  have h₃ := hexVal_hexDigit (u / 16 % 16) (by omega)
  have h₄ := hexVal_hexDigit (u % 16) (by omega)
  have hsum : ((u / 4096 * 16 + u / 256 % 16) * 16 + u / 16 % 16) * 16 + u % 16 = u := by omega
  simp only [readHex4, h₁, h₂, h₃, h₄, Option.bind_eq_bind, Option.bind_some, hsum]

/-- Scalar values outside the surrogates, as numbers. -/
theorem toNat_scalar (c : Char) : c.toNat < 0xd800 ∨ 0xe000 ≤ c.toNat ∧ c.toNat < 0x110000 := by
  have hvalid := c.valid
  simp only [UInt32.isValidChar, Nat.isValidChar] at hvalid
  have hval : c.toNat = c.val.toNat := rfl
  omega

theorem readUnicode_scalar {c : Char} (hc : c.toNat < 0x10000) (rest : List Char) :
    readUnicode (hexDigit (c.toNat / 4096) :: hexDigit (c.toNat / 256 % 16) ::
      hexDigit (c.toNat / 16 % 16) :: hexDigit (c.toNat % 16) :: rest) = some (c, rest) := by
  have hscalar : c.toNat < 0xd800 ∨ 0xe000 ≤ c.toNat := by
    have := toNat_scalar c
    omega
  rw [readUnicode, readHex4_unicodeEscape hc, Option.bind_eq_bind, Option.bind_some]
  dsimp only
  rw [if_pos hscalar, Char.ofNat_toNat]

/-- A character outside the basic plane reads back from its two surrogates. -/
theorem readUnicode_pair {c : Char} (hc : 0x10000 ≤ c.toNat) {hi lo : Nat}
    (hhi : hi = 0xd800 + (c.toNat - 0x10000) / 0x400)
    (hlo : lo = 0xdc00 + (c.toNat - 0x10000) % 0x400) (rest : List Char) :
    readUnicode (hexDigit (hi / 4096) :: hexDigit (hi / 256 % 16) :: hexDigit (hi / 16 % 16) ::
      hexDigit (hi % 16) :: (unicodeEscape lo ++ rest)) = some (c, rest) := by
  have hmax : c.toNat < 0x110000 := by
    have := toNat_scalar c
    omega
  have h₁ : ¬ (hi < 0xd800 ∨ 0xe000 ≤ hi) := by omega
  have h₂ : hi < 0xdc00 := by omega
  have h₃ : 0xdc00 ≤ lo ∧ lo < 0xe000 := by omega
  have hsum : 0x10000 + (hi - 0xd800) * 0x400 + (lo - 0xdc00) = c.toNat := by omega
  rw [readUnicode, readHex4_unicodeEscape (by omega), Option.bind_eq_bind, Option.bind_some]
  dsimp only
  rw [if_neg h₁, if_pos h₂]
  simp only [unicodeEscape, List.cons_append, List.nil_append]
  rw [readHex4_unicodeEscape (by omega), Option.bind_some]
  dsimp only
  rw [if_pos h₃, hsum, Char.ofNat_toNat]

theorem readString_unicode {n : Nat} {c : Char} {l rest : List Char}
    (h : readUnicode l = some (c, rest)) :
    readString (n + 1) ('\\' :: 'u' :: l) = (readString n rest).map fun r => (c :: r.1, r.2) := by
  simp only [readString, Char.reduceEq, if_false, if_true, readEscape, h, Option.bind_eq_bind,
    Option.bind_some]
  cases readString n rest <;> rfl

theorem readsBack_asciiEscape : ReadsBack asciiEscape where
  read n c rest := by
    unfold asciiEscape
    by_cases hascii : c.toNat < 127
    · rw [if_pos hascii]
      exact readString_escapeChar n c rest
    · rw [if_neg hascii]
      by_cases hbasic : c.toNat < 0x10000
      · rw [if_pos hbasic]
        exact readString_unicode (readUnicode_scalar hbasic rest)
      · rw [if_neg hbasic, List.append_assoc]
        exact readString_unicode (readUnicode_pair (not_lt.mp hbasic) rfl rfl rest)
  ne_nil c := by
    unfold asciiEscape
    split_ifs
    · exact escapeChar_ne_nil c
    · exact List.cons_ne_nil _ _
    · exact List.cons_ne_nil _ _

end NightRecon.Lib.Json
