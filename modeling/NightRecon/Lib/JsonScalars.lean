import NightRecon.Lib.JsonText

/-!
# Words and numbers read back

The reader of `JsonParse` on values without parts.

* `Stops` — what may follow a value inside a text; `readNumber_append` says that a number is not
  read any further than to it;
* `readScalar` — a word or a number; `readScalar_append`, `readScalar_toString`;
* `scalarHead` — the characters that begin one.
-/

namespace NightRecon.Lib.Json

open NightRecon.Lib.Text

/-! ## Numbers end where they should -/

/-- What follows a value in a text: nothing, a comma, or a closing bracket. -/
def Stops (rest : List Char) : Prop := ∀ c ∈ rest.head?, c = ',' ∨ c = ']' ∨ c = '\x7d'

theorem Stops.nil : Stops [] := fun _ h => absurd h (Option.not_mem_none _)

theorem Stops.cons {c : Char} {rest : List Char} (h : c = ',' ∨ c = ']' ∨ c = '\x7d') :
    Stops (c :: rest) := by
  intro d hd
  obtain rfl := Option.some.inj hd
  exact h

/-- A character test no stop passes. -/
theorem Stops.head_false {p : Char → Bool} (hcomma : p ',' = false) (hclose : p ']' = false)
    (hbrace : p '\x7d' = false) {rest : List Char} (h : Stops rest) :
    ∀ c ∈ rest.head?, p c = false := by
  intro c hc
  rcases h c hc with rfl | rfl | rfl
  · exact hcomma
  · exact hclose
  · exact hbrace

theorem takeWhile_append_of_head {p : Char → Bool} (l : List Char) {rest : List Char}
    (h : ∀ c ∈ rest.head?, p c = false) :
    (l ++ rest).takeWhile p = l.takeWhile p ∧ (l ++ rest).dropWhile p = l.dropWhile p ++ rest := by
  induction l with
  | nil =>
    cases rest with
    | nil => exact ⟨rfl, rfl⟩
    | cons c rest =>
      have hc : p c = false := h c rfl
      simp [hc]
  | cons c l ih =>
    by_cases hc : p c = true
    · simp [hc, ih.1, ih.2]
    · simp [hc]

theorem readDigits_append (l : List Char) {rest : List Char} (h : Stops rest) :
    readDigits (l ++ rest) = ((readDigits l).1, (readDigits l).2 ++ rest) := by
  obtain ⟨htake, hdrop⟩ := takeWhile_append_of_head l (h.head_false (p := isDigit) rfl rfl rfl)
  rw [readDigits, htake, hdrop]
  rfl

theorem readFraction_append (l : List Char) {rest : List Char} (h : Stops rest) :
    readFraction (l ++ rest) = ((readFraction l).1, (readFraction l).2 ++ rest) := by
  cases l with
  | nil =>
    cases rest with
    | nil => rfl
    | cons c rest =>
      have hdot : c ≠ '.' := by
        rintro rfl
        rcases h _ rfl with h | h | h <;> cases h
      simp [readFraction, hdot]
  | cons c l =>
    by_cases hdot : c = '.'
    · subst hdot
      simp only [List.cons_append, readFraction, readDigits_append l h]
      split <;> rfl
    · simp [readFraction, hdot]

theorem readExponent_append (l : List Char) {rest : List Char} (h : Stops rest) :
    readExponent (l ++ rest) = ((readExponent l).1, (readExponent l).2 ++ rest) := by
  cases l with
  | nil =>
    cases rest with
    | nil => rfl
    | cons c rest =>
      have he : ¬ (c = 'e' ∨ c = 'E') := by
        rcases h _ rfl with rfl | rfl | rfl <;> decide
      simp [readExponent, he]
  | cons c l =>
    by_cases he : c = 'e' ∨ c = 'E'
    · have hsign : ((l ++ rest).take 1).filter (fun c => c == '+' || c == '-') =
          (l.take 1).filter (fun c => c == '+' || c == '-') := by
        cases l with
        | nil =>
          cases rest with
          | nil => rfl
          | cons d rest => rcases h _ rfl with rfl | rfl | rfl <;> rfl
        | cons d l => rfl
      have hdrop : (l ++ rest).drop ((l.take 1).filter (fun c => c == '+' || c == '-')).length =
          l.drop ((l.take 1).filter (fun c => c == '+' || c == '-')).length ++ rest := by
        apply List.drop_append_of_le_length
        exact (List.length_filter_le _ _).trans (by simp)
      simp only [List.cons_append, readExponent, if_pos he, hsign, hdrop, readDigits_append _ h]
      split <;> rfl
    · simp [readExponent, he]

/-- The whole part of a number. -/
def readWhole : List Char → Option (List Char × List Char)
  | '0' :: rest => some (['0'], rest)
  | c :: rest => if isDigit c then some (readDigits (c :: rest)) else none
  | [] => none

/-- The number with the sign `negative` and the whole part `whole.1`, before the text `whole.2`. -/
def readNumberTail (negative : Bool) (whole : List Char × List Char) : Json × List Char :=
  let (fraction, rest) := readFraction whole.2
  let (exponent, rest) := readExponent rest
  if fraction = [] ∧ exponent = [] then
    let n : Int := digitsVal whole.1
    (.int (if negative then -n else n), rest)
  else
    let sign := if negative then ['-'] else []
    (.float (String.ofList (sign ++ whole.1 ++ fraction ++ exponent)), rest)

/-- A number is a sign, a whole part and a tail. -/
theorem readNumber_eq (l : List Char) : readNumber l =
    (readWhole (if l.head? == some '-' then l.drop 1 else l)).map
      (readNumberTail (l.head? == some '-')) := by
  have htail : ∀ whole, (some (readNumberTail (l.head? == some '-') whole)) =
      (if (readFraction whole.2).1 = [] ∧ (readExponent (readFraction whole.2).2).1 = [] then
        some (Json.int (if (l.head? == some '-') = true then -(digitsVal whole.1 : Int)
          else digitsVal whole.1), (readExponent (readFraction whole.2).2).2)
      else some (Json.float (String.ofList ((if (l.head? == some '-') = true then ['-'] else []) ++
          whole.1 ++ (readFraction whole.2).1 ++ (readExponent (readFraction whole.2).2).1)),
        (readExponent (readFraction whole.2).2).2)) := by
    intro whole
    exact apply_ite some _ _ _
  unfold readNumber
  dsimp only
  generalize (if (l.head? == some '-') = true then l.drop 1 else l) = body
  cases body with
  | nil => rfl
  | cons c body =>
    by_cases hzero : c = '0'
    · subst hzero
      exact (htail (['0'], body)).symm
    · have hwhole : readWhole (c :: body) =
          if isDigit c then some (readDigits (c :: body)) else none := by
        simp [readWhole]
      rw [hwhole]
      by_cases hc : isDigit c = true
      · rw [if_pos hc, Option.map_some, htail]
        simp [hc]
      · rw [if_neg hc]
        simp [hc]

theorem readWhole_append {l ds r rest : List Char} (hread : readWhole l = some (ds, r))
    (h : Stops rest) : readWhole (l ++ rest) = some (ds, r ++ rest) := by
  cases l with
  | nil => cases hread
  | cons c l =>
    by_cases hzero : c = '0'
    · subst hzero
      obtain ⟨rfl, rfl⟩ := Prod.mk.inj (Option.some.inj hread)
      rfl
    · have hwhole : ∀ t, readWhole (c :: t) =
          if isDigit c then some (readDigits (c :: t)) else none := by
        intro t
        simp [readWhole]
      rw [hwhole] at hread
      rw [List.cons_append, hwhole]
      by_cases hc : isDigit c = true
      · rw [if_pos hc, Option.some.injEq] at hread
        rw [if_pos hc, ← List.cons_append, readDigits_append _ h, hread]
      · rw [if_neg hc] at hread
        cases hread

theorem readNumberTail_append (negative : Bool) (ds r : List Char) {rest : List Char}
    (h : Stops rest) : readNumberTail negative (ds, r ++ rest) =
      ((readNumberTail negative (ds, r)).1, (readNumberTail negative (ds, r)).2 ++ rest) := by
  simp only [readNumberTail, readFraction_append _ h, readExponent_append _ h]
  split <;> rfl

/-- **A number is read to where it ends and no further.** -/
theorem readNumber_append {l r rest : List Char} {v : Json} (hread : readNumber l = some (v, r))
    (h : Stops rest) : readNumber (l ++ rest) = some (v, r ++ rest) := by
  cases l with
  | nil => cases hread
  | cons c l =>
    rw [readNumber_eq, Option.map_eq_some_iff] at hread
    obtain ⟨⟨ds, r'⟩, hwhole, htail⟩ := hread
    have hbody : (if ((c :: l) ++ rest).head? == some '-' then ((c :: l) ++ rest).drop 1
        else (c :: l) ++ rest) =
        (if (c :: l).head? == some '-' then (c :: l).drop 1 else c :: l) ++ rest := by
      rw [List.cons_append, List.head?_cons, List.head?_cons]
      split <;> rfl
    rw [readNumber_eq, hbody, readWhole_append hwhole h, Option.map_some]
    show some (readNumberTail ((c :: l).head? == some '-') (ds, r' ++ rest)) = _
    rw [readNumberTail_append _ _ _ h, htail]

/-! ## Integers -/

theorem isDigit_of_mem_toDigits {n : Nat} {c : Char} (h : c ∈ Nat.toDigits 10 n) :
    isDigit c = true := by
  have hdigit := Nat.isDigit_of_mem_toDigits (by decide) (by decide) h
  simpa [Char.isDigit, isDigit, Char.le_def] using hdigit

/-- A positive number is written without a leading zero. -/
theorem head_toDigits_ne {n : Nat} (h : 0 < n) : (Nat.toDigits 10 n).head? ≠ some '0' := by
  induction n using Nat.strong_induction_on with
  | h n ih =>
    by_cases hn : n < 10
    · have hall : ∀ k < 10, 0 < k → [Nat.digitChar k].head? ≠ some '0' := by decide
      rw [Nat.toDigits_of_lt_base hn]
      exact hall n hn h
    · rw [Nat.toDigits_of_base_le (by decide) (by omega), List.head?_append]
      have hrec := ih (n / 10) (by omega) (by omega)
      cases hd : (Nat.toDigits 10 (n / 10)).head? with
      | none => exact absurd (List.head?_eq_none_iff.mp hd) Nat.toDigits_ne_nil
      | some c => simpa [hd] using hrec

theorem digitsVal_toDigits (n : Nat) : digitsVal (Nat.toDigits 10 n) = n := by
  have hdigits := Nat.ofDigitChars_ten_toDigits (n := n)
  rwa [Nat.ofDigitChars_eq_foldl] at hdigits

theorem readWhole_toDigits (n : Nat) : readWhole (Nat.toDigits 10 n) =
    some (Nat.toDigits 10 n, []) := by
  by_cases hn : n = 0
  · subst hn
    decide
  · have hhead := head_toDigits_ne (Nat.pos_of_ne_zero hn)
    have hall : ∀ c ∈ Nat.toDigits 10 n, isDigit c = true := fun c h => isDigit_of_mem_toDigits h
    cases hd : Nat.toDigits 10 n with
    | nil => exact absurd hd Nat.toDigits_ne_nil
    | cons c l =>
      rw [hd] at hhead hall
      have hc : c ≠ '0' := fun heq => hhead (by rw [heq]; rfl)
      have htake : (c :: l).takeWhile isDigit = c :: l := List.takeWhile_eq_self_iff.mpr hall
      have hdrop : (c :: l).dropWhile isDigit = [] := List.dropWhile_eq_nil_iff.mpr hall
      simp [readWhole, hall c List.mem_cons_self, readDigits, htake, hdrop]

/-- A written integer starts with a digit or with a minus sign. -/
theorem toList_toString_int (n : Int) : (toString n).toList =
    if n < 0 then '-' :: Nat.toDigits 10 n.natAbs else Nat.toDigits 10 n.natAbs := by
  cases n with
  | ofNat m => 
    show (Int.repr (Int.ofNat m)).toList = _
    simp [Int.repr, Nat.toList_repr]
  | negSucc m =>
    show (Int.repr (Int.negSucc m)).toList = _
    simp [Int.repr, Nat.toList_repr, Int.negSucc_lt_zero]

/-- **A written integer reads back.** -/
theorem readNumber_toString (n : Int) : readNumber (toString n).toList = some (.int n, []) := by
  have htail : ∀ negative ds, readNumberTail negative (ds, []) =
      (.int (if negative then -(digitsVal ds : Int) else digitsVal ds), []) := fun _ _ => rfl
  rw [readNumber_eq, toList_toString_int]
  by_cases hn : n < 0
  · have habs : (-(n.natAbs : Int)) = n := by omega
    rw [if_pos hn]
    show (readWhole (Nat.toDigits 10 n.natAbs)).map (readNumberTail true) = _
    rw [readWhole_toDigits, Option.map_some, htail, if_pos rfl, digitsVal_toDigits, habs]
  · have habs : (n.natAbs : Int) = n := by omega
    have hminus : ((Nat.toDigits 10 n.natAbs).head? == some '-') = false := by
      rw [beq_eq_false_iff_ne]
      intro h
      have hdigit := isDigit_of_mem_toDigits (List.mem_of_mem_head? h)
      exact absurd hdigit (by decide)
    rw [if_neg hn, hminus, if_neg Bool.false_ne_true, readWhole_toDigits, Option.map_some, htail,
      if_neg Bool.false_ne_true, digitsVal_toDigits, habs]

/-! ## Values without parts -/

/-- The text of a float: the reader gives it back as it is. -/
def isFloatText (literal : String) : Prop :=
  (readLiteral literal.toList).or (readNumber literal.toList) = some (.float literal, [])

/-- Values that are no string and no container are read as words or as numbers. -/
def readScalar (l : List Char) : Option (Json × List Char) := (readLiteral l).or (readNumber l)

theorem readLiteral_word (t : List Char) :
    ∀ w ∈ literals, readLiteral (w.1.toList ++ t) = some (w.2, t) := by
  intro w hw
  simp only [literals, List.mem_cons, List.not_mem_nil, or_false] at hw
  rcases hw with rfl | rfl | rfl | rfl | rfl | rfl <;> rfl

/-- A word has no digit in the place of its first two characters. -/
theorem literal_heads : ∀ w ∈ literals, ∃ c d t, w.1.toList = c :: d :: t ∧
    isDigit c = false ∧ isDigit d = false := by
  intro w hw
  simp only [literals, List.mem_cons, List.not_mem_nil, or_false] at hw
  rcases hw with rfl | rfl | rfl | rfl | rfl | rfl <;> exact ⟨_, _, _, rfl, rfl, rfl⟩

/-- No word is the beginning of another. -/
theorem readLiteral_append {l r : List Char} {v : Json} (hread : readLiteral l = some (v, r))
    (rest : List Char) : readLiteral (l ++ rest) = some (v, r ++ rest) := by
  unfold readLiteral at hread
  rw [Option.map_eq_some_iff] at hread
  obtain ⟨w, hfind, hw⟩ := hread
  obtain ⟨rfl, rfl⟩ := Prod.mk.inj hw
  have hprefix := List.find?_some hfind
  obtain ⟨t, rfl⟩ := List.isPrefixOf_iff_prefix.mp hprefix
  have hdrop : (w.1.toList ++ t).drop w.1.length = t := by
    rw [← String.length_toList]
    exact List.drop_left
  rw [List.append_assoc, readLiteral_word _ w (List.mem_of_find?_eq_some hfind), hdrop]

/-- A number starts with a digit, behind a minus sign or not. -/
theorem head_of_readNumber {l r : List Char} {v : Json} (h : readNumber l = some (v, r)) :
    ∃ d t, isDigit d = true ∧ (l = d :: t ∨ l = '-' :: d :: t) := by
  rw [readNumber_eq, Option.map_eq_some_iff] at h
  obtain ⟨whole, hwhole, -⟩ := h
  have hhead : ∀ t, readWhole t = some whole → ∃ d t', isDigit d = true ∧ t = d :: t' := by
    intro t ht
    unfold readWhole at ht
    split at ht
    · exact ⟨'0', _, rfl, rfl⟩
    · rename_i c t' _
      by_cases hc : isDigit c = true
      · exact ⟨c, t', hc, rfl⟩
      · rw [if_neg hc] at ht
        cases ht
    · cases ht
  split at hwhole
  · rename_i hminus
    obtain ⟨d, t, hd, ht⟩ := hhead _ hwhole
    refine ⟨d, t, hd, .inr ?_⟩
    cases l with
    | nil => cases ht
    | cons c l =>
      obtain rfl := Option.some.inj (eq_of_beq hminus)
      exact congrArg ('-' :: ·) ht
  · obtain ⟨d, t, hd, ht⟩ := hhead _ hwhole
    exact ⟨d, t, hd, .inl ht⟩

theorem readLiteral_of_number {l r : List Char} {v : Json} (h : readNumber l = some (v, r))
    (rest : List Char) : readLiteral (l ++ rest) = none := by
  obtain ⟨d, t, hd, hl⟩ := head_of_readNumber h
  have hne : ∀ c, isDigit c = false → c ≠ d := by
    rintro c hc rfl
    exact absurd hd (Bool.eq_false_iff.mp hc)
  unfold readLiteral
  rw [Option.map_eq_none_iff, List.find?_eq_none]
  intro w hw
  obtain ⟨c, c', t', hword, hc, hc'⟩ := literal_heads w hw
  rw [hword]
  rcases hl with rfl | rfl
  · simp [hne c hc]
  · simp [hne c' hc']

/-- **A word or a number is read to where it ends and no further.** -/
theorem readScalar_append {l r rest : List Char} {v : Json} (hread : readScalar l = some (v, r))
    (h : Stops rest) : readScalar (l ++ rest) = some (v, r ++ rest) := by
  unfold readScalar at hread ⊢
  cases hword : readLiteral l with
  | some w =>
    rw [hword, Option.some_or, Option.some.injEq] at hread
    subst hread
    rw [readLiteral_append hword rest, Option.some_or]
  | none =>
    rw [hword, Option.none_or] at hread
    rw [readLiteral_of_number hread rest, Option.none_or]
    exact readNumber_append hread h

theorem readScalar_toString (n : Int) : readScalar (toString n).toList = some (.int n, []) := by
  have hnumber := readNumber_toString n
  have hword := readLiteral_of_number hnumber []
  rw [List.append_nil] at hword
  rw [readScalar, hword, Option.none_or, hnumber]

/-- Characters that begin a word or a number. -/
def scalarHead (c : Char) : Bool := isDigit c || ['-', 'n', 't', 'f', 'N', 'I'].contains c

theorem head_of_readScalar {l r : List Char} {v : Json} (h : readScalar l = some (v, r)) :
    ∃ c t, l = c :: t ∧ scalarHead c = true := by
  unfold readScalar at h
  cases hword : readLiteral l with
  | some w =>
    unfold readLiteral at hword
    rw [Option.map_eq_some_iff] at hword
    obtain ⟨word, hfind, -⟩ := hword
    have hprefix := List.find?_some hfind
    obtain ⟨t, rfl⟩ := List.isPrefixOf_iff_prefix.mp hprefix
    have hheads : ∀ w ∈ literals, ∃ c t', w.1.toList = c :: t' ∧ scalarHead c = true := by
      intro w hw
      simp only [literals, List.mem_cons, List.not_mem_nil, or_false] at hw
      rcases hw with rfl | rfl | rfl | rfl | rfl | rfl <;> exact ⟨_, _, rfl, rfl⟩
    obtain ⟨c, t', hc, hhead⟩ := hheads word (List.mem_of_find?_eq_some hfind)
    exact ⟨c, t' ++ t, by rw [hc, List.cons_append], hhead⟩
  | none =>
    rw [hword, Option.none_or] at h
    obtain ⟨d, t, hd, hl⟩ := head_of_readNumber h
    rcases hl with rfl | rfl
    · exact ⟨d, t, rfl, by rw [scalarHead, hd, Bool.true_or]⟩
    · exact ⟨'-', d :: t, rfl, rfl⟩

end NightRecon.Lib.Json
