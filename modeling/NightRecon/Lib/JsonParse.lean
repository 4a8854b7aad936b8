import NightRecon.Lib.Json

/-!
# Reading JSON texts

`json.loads` on the characters of a text.  The recursion is bounded by a fuel argument; the length
of the text is always enough, since every call consumes a character.  A string with an unpaired
surrogate has no value here.

* `readString` — a string literal, behind its opening quote (`readString_quote`);
* `readValue` — one value, with the elements of a list and the members of an object;
* `loads` — a whole text; `loads_strings` says that a written list of strings reads back.
-/

namespace NightRecon.Lib.Json

open NightRecon.Lib.Text

/-- The characters behind white space. -/
def skip (l : List Char) : List Char :=
  l.dropWhile fun c => c == ' ' || c == '\t' || c == '\n' || c == '\r'

/-! ## Strings -/

/-- The value of a hexadecimal digit. -/
def hexVal (c : Char) : Option Nat :=
  if isDigit c then some (c.toNat - '0'.toNat)
  else if 'a' ≤ c ∧ c ≤ 'f' then some (c.toNat - 'a'.toNat + 10)
  else if 'A' ≤ c ∧ c ≤ 'F' then some (c.toNat - 'A'.toNat + 10)
  else none

/-- Four hexadecimal digits off the front. -/
def readHex4 : List Char → Option (Nat × List Char)
  | a :: b :: c :: d :: rest => do
      let a ← hexVal a
      let b ← hexVal b
      let c ← hexVal c
      let d ← hexVal d
      some (((a * 16 + b) * 16 + c) * 16 + d, rest)
  | _ => none

/-- A `\u` escape behind its first two characters; a pair of surrogates is one character. -/
def readUnicode (l : List Char) : Option (Char × List Char) := do
  let (u, rest) ← readHex4 l
  if u < 0xd800 ∨ 0xe000 ≤ u then
    some (Char.ofNat u, rest)
  else if u < 0xdc00 then
    match rest with
    | '\\' :: 'u' :: rest => do
        let (v, rest) ← readHex4 rest
        if 0xdc00 ≤ v ∧ v < 0xe000 then
          some (Char.ofNat (0x10000 + (u - 0xd800) * 0x400 + (v - 0xdc00)), rest)
        else none
    | _ => none
  else none

/-- An escape behind its backslash. -/
def readEscape : List Char → Option (Char × List Char)
  | '"' :: rest => some ('"', rest)
  | '\\' :: rest => some ('\\', rest)
  | '/' :: rest => some ('/', rest)
  | 'b' :: rest => some (Char.ofNat 8, rest)
  | 'f' :: rest => some (Char.ofNat 12, rest)
  | 'n' :: rest => some ('\n', rest)
  | 'r' :: rest => some ('\r', rest)
  | 't' :: rest => some ('\t', rest)
  | 'u' :: rest => readUnicode rest
  | _ => none

/-- A string literal behind its opening quote. -/
def readString : Nat → List Char → Option (List Char × List Char)
  | 0, _ => none
  | _ + 1, [] => none
  | n + 1, c :: rest =>
      if c = '"' then some ([], rest)
      else if c = '\\' then do
        let (d, rest) ← readEscape rest
        let (ds, rest) ← readString n rest
        some (d :: ds, rest)
      else if c.toNat < 32 then none
      else do
        let (ds, rest) ← readString n rest
        some (c :: ds, rest)

/-! ## Numbers -/

/-- The digits off the front. -/
def readDigits (l : List Char) : List Char × List Char :=
  (l.takeWhile isDigit, l.dropWhile isDigit)

/-- A fraction, when there is one. -/
def readFraction (l : List Char) : List Char × List Char :=
  match l with
  | '.' :: rest =>
      let (ds, rest') := readDigits rest
      if ds = [] then ([], l) else ('.' :: ds, rest')
  | _ => ([], l)

/-- An exponent, when there is one. -/
def readExponent (l : List Char) : List Char × List Char :=
  match l with
  | e :: rest =>
      if e = 'e' ∨ e = 'E' then
        let sign := rest.take 1 |>.filter fun c => c == '+' || c == '-'
        let (ds, rest') := readDigits (rest.drop sign.length)
        if ds = [] then ([], l) else (e :: sign ++ ds, rest')
      else ([], l)
  | _ => ([], l)

/-- A number: an integer, or a literal with a fraction or an exponent. -/
def readNumber (l : List Char) : Option (Json × List Char) := do
  let negative := l.head? == some '-'
  let body := if negative then l.drop 1 else l
  let (ds, rest) ←
    match body with
    | '0' :: rest => some (['0'], rest)
    | c :: _ => if isDigit c then some (readDigits body) else none
    | [] => none
  let (fraction, rest) := readFraction rest
  let (exponent, rest) := readExponent rest
  if fraction = [] ∧ exponent = [] then
    let n : Int := digitsVal ds
    some (.int (if negative then -n else n), rest)
  else
    let sign := if negative then ['-'] else []
    some (.float (String.ofList (sign ++ ds ++ fraction ++ exponent)), rest)

/-! ## Values -/

/-- The words that are values. -/
def literals : List (String × Json) :=
  [("null", .null), ("true", .bool true), ("false", .bool false), ("NaN", .float "NaN"),
    ("Infinity", .float "Infinity"), ("-Infinity", .float "-Infinity")]

/-- A word that is a value, off the front. -/
def readLiteral (l : List Char) : Option (Json × List Char) :=
  (literals.find? fun w => w.1.toList.isPrefixOf l).map fun w => (w.2, l.drop w.1.length)

mutual

/-- One value off the front. -/
def readValue : Nat → List Char → Option (Json × List Char)
  | 0, _ => none
  | _ + 1, [] => none
  | n + 1, c :: rest =>
      if c = '"' then
        (readString (rest.length + 1) rest).map fun r => (.str (String.ofList r.1), r.2)
      else if c = '[' then
        match skip rest with
        | ']' :: rest => some (.arr [], rest)
        | rest => (readElems n rest).map fun r => (.arr r.1, r.2)
      else if c = '\x7b' then
        match skip rest with
        | '\x7d' :: rest => some (.obj [], rest)
        | rest => (readMembers n [] rest).map fun r => (.obj r.1, r.2)
      else (readLiteral (c :: rest)).or (readNumber (c :: rest))

/-- The elements of a list up to its closing bracket. -/
def readElems : Nat → List Char → Option (List Json × List Char)
  | 0, _ => none
  | n + 1, l => do
      let (v, rest) ← readValue n l
      match skip rest with
      | ']' :: rest => some ([v], rest)
      | ',' :: rest => do
          let (vs, rest) ← readElems n (skip rest)
          some (v :: vs, rest)
      | _ => none

/-- The members of an object up to its closing brace; a key that occurs again is overwritten. -/
def readMembers : Nat → List (String × Json) → List Char → Option (List (String × Json) × List Char)
  | 0, _, _ => none
  | n + 1, members, l =>
      match l with
      | '"' :: rest => do
          let (key, rest) ← readString (rest.length + 1) rest
          match skip rest with
          | ':' :: rest => do
              let (v, rest) ← readValue n (skip rest)
              let members := setMember members (String.ofList key) v
              match skip rest with
              | '\x7d' :: rest => some (members, rest)
              | ',' :: rest => readMembers n members (skip rest)
              | _ => none
          | _ => none
      | _ => none

end

/-- `json.loads`. -/
def loads (s : String) : Option Json := do
  let l := skip s.toList
  let (v, rest) ← readValue (l.length + 1) l
  if skip rest = [] then some v else none

/-! ## Reading written strings -/

theorem hexVal_hexDigit : ∀ n < 16, hexVal (hexDigit n) = some n := by decide

/-- An escaped control character reads back. -/
theorem readUnicode_control {k : Nat} (hk : k < 32) (rest : List Char) :
    readUnicode ('0' :: '0' :: hexDigit (k / 16) :: hexDigit (k % 16) :: rest) =
      some (Char.ofNat k, rest) := by
  have h0 : hexVal '0' = some 0 := by decide
  have hhi := hexVal_hexDigit (k / 16) (by omega)
  have hlo := hexVal_hexDigit (k % 16) (by omega)
  have hsum : k / 16 * 16 + k % 16 = k := by omega
  simp only [readUnicode, readHex4, h0, hhi, hlo, Option.bind_eq_bind, Option.bind_some,
    Nat.zero_mul, Nat.zero_add, hsum]
  rw [if_pos (Or.inl (by omega))]

/-- One written character reads back. -/
theorem readString_escapeChar (n : Nat) (c : Char) (rest : List Char) :
    readString (n + 1) (escapeChar c ++ rest) =
      (readString n rest).map fun r => (c :: r.1, r.2) := by
  have hbind : ∀ x : Option (List Char × List Char),
      (x >>= fun r => some (c :: r.1, r.2)) = x.map fun r => (c :: r.1, r.2) := by
    intro x
    cases x <;> rfl
  by_cases hq : c = '"'
  · subst hq
    simpa [escapeChar, readString, readEscape] using hbind _
  by_cases hb : c = '\\'
  · subst hb
    simpa [escapeChar, readString, readEscape] using hbind _
  by_cases hn : c = '\n'
  · subst hn
    simpa [escapeChar, readString, readEscape] using hbind _
  by_cases hr : c = '\r'
  · subst hr
    simpa [escapeChar, readString, readEscape] using hbind _
  by_cases ht : c = '\t'
  · subst ht
    simpa [escapeChar, readString, readEscape] using hbind _
  by_cases h8 : c.toNat = 8
  · have hc : c = Char.ofNat 8 := by rw [← h8, Char.ofNat_toNat]
    subst hc
    simpa [escapeChar, readString, readEscape] using hbind _
  by_cases h12 : c.toNat = 12
  · have hc : c = Char.ofNat 12 := by rw [← h12, Char.ofNat_toNat]
    subst hc
    simpa [escapeChar, readString, readEscape] using hbind _
  by_cases h32 : c.toNat < 32
  · have hread := readUnicode_control h32 rest
    rw [Char.ofNat_toNat] at hread
    simp only [escapeChar, hq, hb, hn, hr, ht, h8, h12, h32, if_true, if_false, List.cons_append,
      List.nil_append, readString, Char.reduceEq, readEscape, hread]
    exact hbind _
  · simp only [escapeChar, hq, hb, hn, hr, ht, h8, h12, h32, if_false, List.cons_append,
      List.nil_append, readString]
    exact hbind _

/-- **A written string literal reads back.** -/
theorem readString_quote (s : List Char) (rest : List Char) {n : Nat} (hn : s.length < n) :
    readString n (s.flatMap escapeChar ++ '"' :: rest) = some (s, rest) := by
  induction s generalizing n with
  | nil =>
    obtain ⟨m, rfl⟩ : ∃ m, n = m + 1 := ⟨n - 1, by simp at hn; omega⟩
    simp [readString]
  | cons c s ih =>
    obtain ⟨m, rfl⟩ : ∃ m, n = m + 1 := ⟨n - 1, by simp at hn; omega⟩
    have hm : s.length < m := by simpa using hn
    rw [List.flatMap_cons, List.append_assoc, readString_escapeChar, ih hm]
    rfl

theorem length_le_flatMap_escapeChar (s : List Char) : s.length ≤ (s.flatMap escapeChar).length := by
  induction s with
  | nil => exact Nat.le_refl 0
  | cons c s ih =>
    have hpos : 1 ≤ (escapeChar c).length := by
      unfold escapeChar
      split_ifs <;> simp
    rw [List.flatMap_cons, List.length_append, List.length_cons]
    omega

/-- A written string reads back as a value. -/
theorem readValue_quote (n : Nat) (s : String) (rest : List Char) :
    readValue (n + 1) (quote s ++ rest) = some (.str s, rest) := by
  have hlen : s.toList.length < (s.toList.flatMap escapeChar ++ '"' :: rest).length + 1 := by
    have hle := length_le_flatMap_escapeChar s.toList
    rw [List.length_append]
    omega
  have hsplit : quote s ++ rest = '"' :: (s.toList.flatMap escapeChar ++ '"' :: rest) := by
    simp [quote]
  rw [hsplit, readValue, if_pos rfl, readString_quote _ _ hlen, Option.map_some, String.ofList_toList]

theorem skip_comma (l : List Char) : skip (',' :: l) = ',' :: l := rfl

theorem skip_close (l : List Char) : skip (']' :: l) = ']' :: l := rfl

/-- The text of a nonempty list starts with a quote. -/
theorem skip_quotes (s : String) (l : List String) (rest : List Char) :
    skip (List.intercalate [','] ((s :: l).map quote) ++ rest) =
      List.intercalate [','] ((s :: l).map quote) ++ rest := by
  cases l with
  | nil => simp [quote, skip]
  | cons t l => simp [quote, skip]

/-- The elements of a written list of strings read back. -/
theorem readElems_quotes (s : String) (l : List String) (rest : List Char) {n : Nat}
    (hn : l.length + 1 < n) :
    readElems n (List.intercalate [','] ((s :: l).map quote) ++ ']' :: rest) =
      some ((s :: l).map .str, rest) := by
  induction l generalizing s n with
  | nil =>
    obtain ⟨m, rfl⟩ : ∃ m, n = m + 2 := ⟨n - 2, by simp at hn; omega⟩
    simp [readElems, readValue_quote, skip_close]
  | cons t l ih =>
    obtain ⟨m, rfl⟩ : ∃ m, n = m + 2 := ⟨n - 2, by simp at hn; omega⟩
    have hrest := ih t (n := m + 1) (by simp only [List.length_cons] at hn; omega)
    have hsplit : List.intercalate [','] ((s :: t :: l).map quote) ++ ']' :: rest =
        quote s ++ ',' :: (List.intercalate [','] ((t :: l).map quote) ++ ']' :: rest) := by
      simp
    rw [hsplit, readElems, readValue_quote]
    simp only [Option.bind_eq_bind, Option.bind_some, skip_comma]
    rw [skip_quotes, hrest]
    rfl

theorem elemChars_str (l : List String) : elemChars (l.map .str) = l.map quote := by
  induction l with
  | nil => rfl
  | cons s l ih => rw [List.map_cons, List.map_cons, elemChars, chars, ih]

theorem length_le_intercalate_quote (l : List String) :
    l.length ≤ (List.intercalate [','] (l.map quote)).length := by
  induction l with
  | nil => exact Nat.le_refl 0
  | cons s l ih =>
    cases l with
    | nil => simp [quote]
    | cons t l =>
      simp only [List.map_cons, List.intercalate_cons_cons, List.length_append, List.length_cons,
        List.length_nil] at ih ⊢
      omega

/-- A list that does not close at once is read by its elements. -/
theorem readValue_open {n : Nat} {l : List Char} (hskip : skip l = l) (hopen : l.head? ≠ some ']') :
    readValue (n + 1) ('[' :: l) = (readElems n l).map fun r => (.arr r.1, r.2) := by
  rw [readValue, if_neg (by decide), if_pos rfl, hskip]
  split
  · exact absurd rfl hopen
  · rfl

/-- **A written list of strings reads back.** -/
theorem loads_strings (l : List String) : loads (strings l).write = some (strings l) := by
  have hbracket : ∀ r, skip ('[' :: r) = '[' :: r := fun _ => rfl
  cases l with
  | nil =>
    have hchars : (strings []).write.toList = ['[', ']'] := by
      simp [write, strings, chars, elemChars]
    unfold loads
    simp only [hchars, hbracket]
    rfl
  | cons s l =>
    have hchars : (strings (s :: l)).write.toList =
        '[' :: (List.intercalate [','] ((s :: l).map quote) ++ [']']) := by
      simp only [write, String.toList_ofList, strings, chars, elemChars_str, List.cons_append]
    have hlen := length_le_intercalate_quote (s :: l)
    have hread := readElems_quotes s l []
      (n := ('[' :: (List.intercalate [','] ((s :: l).map quote) ++ [']'])).length)
      (by simp only [List.length_cons, List.length_append, List.length_nil] at hlen ⊢; omega)
    have hquote : (List.intercalate [','] ((s :: l).map quote) ++ [']']).head? ≠ some ']' := by
      cases l with
      | nil => simp [quote]
      | cons t l => simp [quote]
    unfold loads
    simp only [hchars, hbracket]
    rw [readValue_open (skip_quotes s l [']']) hquote, hread]
    rfl

end NightRecon.Lib.Json
