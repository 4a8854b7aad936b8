import Mathlib.Data.List.DropRight
import Mathlib.Data.List.Sort
import Mathlib.Data.String.Basic

/-!
# Text: the string operations of a scripting language, on characters

Strings are Lean strings; the operations work on their character lists.

* `strip` — surrounding white space removed, with the Unicode white-space characters; `strip_strip`;
* `requiredText` — the guard "nonblank and trimmed" (`requiredText_iff`);
* `asciiLower` — lower-casing of the ASCII letters, the rest unchanged;
* `sortedStr` — the sorted list of strings (code-point order), `sortedStr_perm`; `sortedBy` — the
  same for records with a key;
* `digitsVal` — the value of a digit string.
-/

namespace NightRecon.Lib.Text

/-! ## Character classes -/

/-- White space as `str.isspace` reads it. -/
def isSpace (c : Char) : Bool :=
  let n := c.toNat
  (9 ≤ n && n ≤ 13) || (28 ≤ n && n ≤ 32) || n == 0x85 || n == 0xa0 || n == 0x1680 ||
    (0x2000 ≤ n && n ≤ 0x200a) || n == 0x2028 || n == 0x2029 || n == 0x202f || n == 0x205f ||
    n == 0x3000

/-- An ASCII decimal digit. -/
def isDigit (c : Char) : Bool := '0' ≤ c && c ≤ '9'

/-- An ASCII lower-case letter. -/
def isLower (c : Char) : Bool := 'a' ≤ c && c ≤ 'z'

/-- An ASCII upper-case letter. -/
def isUpper (c : Char) : Bool := 'A' ≤ c && c ≤ 'Z'

/-- An ASCII letter or digit. -/
def isAlnum (c : Char) : Bool := isLower c || isUpper c || isDigit c

/-- A letter or digit is no white space. -/
theorem isSpace_of_isAlnum {c : Char} (h : isAlnum c = true) : isSpace c = false := by
  simp only [isAlnum, isLower, isUpper, isDigit, Bool.or_eq_true, Bool.and_eq_true,
    decide_eq_true_eq, Char.le_def, UInt32.le_iff_toNat_le] at h
  simp only [isSpace, Char.toNat, Bool.or_eq_false_iff, Bool.and_eq_false_iff,
    decide_eq_false_iff_not, beq_eq_false_iff_ne]
  have ha : 'a'.val.toNat = 97 := rfl
  have hz : 'z'.val.toNat = 122 := rfl
  have hA : 'A'.val.toNat = 65 := rfl
  have hZ : 'Z'.val.toNat = 90 := rfl
  have h0 : '0'.val.toNat = 48 := rfl
  have h9 : '9'.val.toNat = 57 := rfl
  omega

/-! ## Stripping -/

/-- The characters without surrounding white space. -/
def stripChars (l : List Char) : List Char := (l.dropWhile isSpace).rdropWhile isSpace

/-- `str.strip`. -/
def strip (s : String) : String := String.ofList (stripChars s.toList)

@[simp] theorem toList_strip (s : String) : (strip s).toList = stripChars s.toList := by
  simp [strip]

theorem dropWhile_rdropWhile_comm {α : Type} (p : α → Bool) {l : List α}
    (h : l.dropWhile p = l) : (l.rdropWhile p).dropWhile p = l.rdropWhile p := by
  cases hr : l.rdropWhile p with
  | nil => rfl
  | cons a r =>
    -- the suffix removal keeps the first character, which is not white space
    obtain ⟨t, ht⟩ : l.rdropWhile p <+: l := List.rdropWhile_prefix p l
    rw [hr] at ht
    have hp : p a = false := by
      cases hpa : p a with
      | false => rfl
      | true =>
        rw [← ht, List.cons_append, List.dropWhile_cons_of_pos hpa] at h
        have hlen := congrArg List.length h
        have hle := (List.dropWhile_suffix (l := r ++ t) p).length_le
        simp only [List.length_cons] at hlen
        omega
    rw [List.dropWhile_cons_of_neg (by simp [hp])]

theorem stripChars_stripChars (l : List Char) : stripChars (stripChars l) = stripChars l := by
  unfold stripChars
  rw [dropWhile_rdropWhile_comm _ (List.dropWhile_idempotent _ _), List.rdropWhile_idempotent]

@[simp] theorem strip_strip (s : String) : strip (strip s) = strip s := by
  unfold strip
  rw [String.toList_ofList, stripChars_stripChars]

/-- A list without white space is its own stripping. -/
theorem stripChars_eq_self {l : List Char} (h : ∀ c ∈ l, isSpace c = false) :
    stripChars l = l := by
  have hd : l.dropWhile isSpace = l := by
    cases l with
    | nil => rfl
    | cons a t => rw [List.dropWhile_cons_of_neg (by simp [h a (by simp)])]
  unfold stripChars
  rw [hd]
  apply List.rdropWhile_eq_self_iff.mpr
  intro hl
  simp [h _ (List.getLast_mem hl)]

theorem strip_eq_self {s : String} (h : ∀ c ∈ s.toList, isSpace c = false) : strip s = s := by
  unfold strip
  rw [stripChars_eq_self h, String.ofList_toList]

/-- A nonblank string without surrounding white space. -/
def requiredText (s : String) : Prop := s ≠ "" ∧ strip s = s

instance (s : String) : Decidable (requiredText s) := inferInstanceAs (Decidable (_ ∧ _))

theorem requiredText_of_noSpace {s : String} (hne : s ≠ "")
    (h : ∀ c ∈ s.toList, isSpace c = false) : requiredText s :=
  ⟨hne, strip_eq_self h⟩

/-- A text that begins and ends with a character that is not white space. -/
theorem requiredText_of_ends {s : String} {c d : Char} {m : List Char}
    (hs : s.toList = c :: (m ++ [d])) (hc : isSpace c = false) (hd : isSpace d = false) :
    requiredText s := by
  constructor
  · rintro rfl
    exact absurd hs (List.cons_ne_nil _ _).symm
  · have hdrop : (c :: (m ++ [d])).dropWhile isSpace = c :: (m ++ [d]) :=
      List.dropWhile_cons_of_neg (by simp [hc])
    have hrdrop : (c :: (m ++ [d])).rdropWhile isSpace = c :: (m ++ [d]) := by
      rw [← List.cons_append, List.rdropWhile_concat_neg _ _ _ (by simp [hd])]
    rw [strip, stripChars, hs, hdrop, hrdrop, ← hs, String.ofList_toList]

/-! ## Lower case -/

/-- Lower-casing of one ASCII letter. -/
def lowerChar (c : Char) : Char := if isUpper c then Char.ofNat (c.toNat + 32) else c

/-- Lower-casing of the ASCII letters of a string. -/
def asciiLower (s : String) : String := String.ofList (s.toList.map lowerChar)

theorem lowerChar_of_not_upper {c : Char} (h : isUpper c = false) : lowerChar c = c := by
  simp [lowerChar, h]

/-- An upper-case letter is lowered to a lower-case letter. -/
theorem isLower_lowerChar {c : Char} (h : isUpper c = true) : isLower (lowerChar c) = true := by
  have hbounds : 65 ≤ c.toNat ∧ c.toNat ≤ 90 := by
    simpa [isUpper, Char.le_def, UInt32.le_iff_toNat_le] using h
  have hall : ∀ n : Fin 26, isLower (Char.ofNat (n.val + 65 + 32)) = true := by decide
  have hn := hall ⟨c.toNat - 65, by omega⟩
  have hadd : c.toNat - 65 + 65 = c.toNat := by omega
  simpa only [lowerChar, h, if_true, hadd] using hn

theorem isUpper_of_isLower {c : Char} (h : isLower c = true) : isUpper c = false := by
  simp only [isLower, isUpper, Bool.and_eq_true, decide_eq_true_eq, Char.le_def,
    UInt32.le_iff_toNat_le, Bool.and_eq_false_iff, decide_eq_false_iff_not] at h ⊢
  have ha : 'a'.val.toNat = 97 := rfl
  have hZ : 'Z'.val.toNat = 90 := rfl
  omega

theorem isLower_of_isDigit {c : Char} (h : isDigit c = true) : isLower c = false := by
  simp only [isLower, isDigit, Bool.and_eq_true, decide_eq_true_eq, Char.le_def,
    UInt32.le_iff_toNat_le, Bool.and_eq_false_iff, decide_eq_false_iff_not] at h ⊢
  have h9 : '9'.val.toNat = 57 := rfl
  have ha : 'a'.val.toNat = 97 := rfl
  omega

@[simp] theorem lowerChar_lowerChar (c : Char) : lowerChar (lowerChar c) = lowerChar c := by
  cases h : isUpper c with
  | true => exact lowerChar_of_not_upper (isUpper_of_isLower (isLower_lowerChar h))
  | false => rw [lowerChar_of_not_upper h, lowerChar_of_not_upper h]

@[simp] theorem asciiLower_asciiLower (s : String) :
    asciiLower (asciiLower s) = asciiLower s := by
  simp [asciiLower, Function.comp_def]

/-- Lowering gives only letters it was given or their lower case. -/
theorem isLower_or_eq_lowerChar (c : Char) : isLower (lowerChar c) = true ∨ lowerChar c = c := by
  cases h : isUpper c with
  | true => exact Or.inl (isLower_lowerChar h)
  | false => exact Or.inr (lowerChar_of_not_upper h)

/-- A character that is not a letter comes only from itself. -/
theorem lowerChar_eq_iff {c d : Char} (hd : isLower d = false) (hu : isUpper d = false) :
    lowerChar c = d ↔ c = d := by
  constructor
  · intro h
    rcases isLower_or_eq_lowerChar c with hc | hc
    · rw [h, hd] at hc
      exact absurd hc Bool.false_ne_true
    · exact hc.symm.trans h
  · rintro rfl
    exact lowerChar_of_not_upper hu

/-! ## Splitting -/

/-- A character of a list is the separator or in one of the parts. -/
theorem mem_splitOn {a c : Char} {l : List Char} (h : c ∈ l) :
    c = a ∨ ∃ part ∈ l.splitOn a, c ∈ part := by
  induction l with
  | nil => exact absurd h List.not_mem_nil
  | cons d l ih =>
    rw [List.splitOn_cons_eq_if_modifyHead]
    by_cases hd : d = a
    · subst hd
      rw [if_pos (beq_self_eq_true d)]
      rcases List.mem_cons.mp h with rfl | h
      · exact Or.inl rfl
      · rcases ih h with hc | ⟨part, hpart, hc⟩
        · exact Or.inl hc
        · exact Or.inr ⟨part, List.mem_cons_of_mem _ hpart, hc⟩
    · rw [if_neg (by simpa using hd)]
      obtain ⟨first, rest, hsplit⟩ := List.exists_cons_of_ne_nil (List.splitOn_ne_nil a l)
      rw [hsplit] at ih ⊢
      rw [List.modifyHead_cons]
      rcases List.mem_cons.mp h with rfl | h
      · exact Or.inr ⟨_, List.mem_cons_self, List.mem_cons_self⟩
      · rcases ih h with hc | ⟨part, hpart, hc⟩
        · exact Or.inl hc
        · rcases List.mem_cons.mp hpart with rfl | hpart
          · exact Or.inr ⟨_, List.mem_cons_self, List.mem_cons_of_mem _ hc⟩
          · exact Or.inr ⟨part, List.mem_cons_of_mem _ hpart, hc⟩

/-- A character of a part is a character of the list. -/
theorem mem_of_mem_splitOn {a c : Char} {l part : List Char} (hpart : part ∈ l.splitOn a)
    (hc : c ∈ part) : c ∈ l := by
  have hmem : ∀ ls : List (List Char), part ∈ ls → c ∈ List.intercalate [a] ls := by
    intro ls
    induction ls with
    | nil => exact fun h => absurd h List.not_mem_nil
    | cons x ls ih =>
      intro h
      rcases List.mem_cons.mp h with rfl | h
      · cases ls with
        | nil => simpa using hc
        | cons y ls => simp [hc]
      · have htail := ih h
        cases ls with
        | nil => exact absurd h List.not_mem_nil
        | cons y ls =>
          rw [List.intercalate_cons_cons]
          exact List.mem_append_right _ htail
  have h := hmem _ hpart
  rwa [List.intercalate_splitOn] at h

/-- Splitting commutes with a map under which only the separator becomes the separator. -/
theorem splitOn_map {f : Char → Char} {a : Char} (hf : ∀ c, f c = a ↔ c = a) (l : List Char) :
    (l.map f).splitOn a = (l.splitOn a).map (List.map f) := by
  induction l with
  | nil => rfl
  | cons d l ih =>
    rw [List.map_cons, List.splitOn_cons_eq_if_modifyHead, List.splitOn_cons_eq_if_modifyHead, ih]
    by_cases hd : d = a
    · have hfd : f d = a := (hf d).mpr hd
      simp [hd, (hf a).mpr rfl]
    · have hfd : ¬ f d = a := fun h => hd ((hf d).mp h)
      obtain ⟨first, rest, hsplit⟩ := List.exists_cons_of_ne_nil (List.splitOn_ne_nil a l)
      simp [hd, hfd, hsplit]

/-! ## Digits -/

/-- The value of a string of decimal digits, most significant first. -/
def digitsVal (l : List Char) : Nat := l.foldl (fun n c => 10 * n + (c.toNat - '0'.toNat)) 0

/-! ## Sorting -/

/-- `sorted` on strings. -/
def sortedStr (l : List String) : List String := l.insertionSort (· ≤ ·)

theorem sortedStr_perm (l : List String) : (sortedStr l).Perm l := List.perm_insertionSort _ l

@[simp] theorem mem_sortedStr {l : List String} {s : String} : s ∈ sortedStr l ↔ s ∈ l :=
  (sortedStr_perm l).mem_iff

theorem sortedStr_nodup {l : List String} : (sortedStr l).Nodup ↔ l.Nodup :=
  (sortedStr_perm l).nodup_iff

@[simp] theorem sortedStr_length (l : List String) : (sortedStr l).length = l.length :=
  (sortedStr_perm l).length_eq

/-- Sorting a sorted list changes nothing. -/
@[simp] theorem sortedStr_sortedStr (l : List String) : sortedStr (sortedStr l) = sortedStr l :=
  List.Pairwise.insertionSort_eq (List.pairwise_insertionSort _ l)

/-- `sorted` with a key; records with equal keys keep their order. -/
def sortedBy {α : Type} (key : α → String) (l : List α) : List α :=
  l.insertionSort fun a b => key a ≤ key b

theorem sortedBy_perm {α : Type} (key : α → String) (l : List α) : (sortedBy key l).Perm l :=
  List.perm_insertionSort _ l

theorem sortedBy_pairwise {α : Type} (key : α → String) (l : List α) :
    (sortedBy key l).Pairwise fun a b => key a ≤ key b := by
  have htotal : Std.Total fun a b : α => key a ≤ key b := ⟨fun a b => le_total (key a) (key b)⟩
  have htrans : IsTrans α fun a b => key a ≤ key b := ⟨fun _ _ _ hab hbc => le_trans hab hbc⟩
  exact List.pairwise_insertionSort _ l

/-- Sorting records that are in order changes nothing. -/
theorem sortedBy_eq_self {α : Type} {key : α → String} {l : List α}
    (h : l.Pairwise fun a b => key a ≤ key b) : sortedBy key l = l :=
  List.Pairwise.insertionSort_eq h

end NightRecon.Lib.Text
