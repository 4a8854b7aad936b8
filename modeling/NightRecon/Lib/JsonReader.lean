import NightRecon.Lib.JsonScalars
import NightRecon.Lib.Keyed

/-!
# Readers of JSON texts

A reader of JSON is told how to read a value without parts, and what to do with a key that occurs
again.  Every such reader reads written texts back.

* `normal` — the value with the members of every object sorted by key; `get?_normal` — a member of
  a normal form is the normal form of the member;
* `readValueBy scalar add` — the reader; `readValue_eq` says that the reader of `JsonParse` is one;
* `ReadsScalars`, `AddsNew`, `Readable` — what is asked of a reader and of the values it reads back;
* `readsBy_of_ok` — **the text of such a value is read back as its normal form**, under every
  escaping the string reader undoes.
-/

namespace NightRecon.Lib.Json

open NightRecon.Lib.Text

/-! ## Normal forms -/

mutual

/-- The value with the members of every object sorted by key. -/
def normal : Json → Json
  | .arr elems => .arr (elemsNormal elems)
  | .obj members => .obj (sortMembers (membersNormal members))
  | j => j

def elemsNormal : List Json → List Json
  | [] => []
  | j :: elems => normal j :: elemsNormal elems

def membersNormal : List (String × Json) → List (String × Json)
  | [] => []
  | (k, j) :: members => (k, normal j) :: membersNormal members

end

theorem elemsNormal_eq_map (l : List Json) : elemsNormal l = l.map normal := by
  induction l with
  | nil => rfl
  | cons j l ih => rw [elemsNormal, ih, List.map_cons]

theorem membersNormal_eq_map (l : List (String × Json)) :
    membersNormal l = l.map fun m => (m.1, normal m.2) := by
  induction l with
  | nil => rfl
  | cons m l ih => rw [membersNormal, ih, List.map_cons]

theorem normal_obj (members : List (String × Json)) :
    normal (.obj members) = .obj ((sortMembers members).map fun m => (m.1, normal m.2)) := by
  rw [normal, membersNormal_eq_map, sortMembers_map]

/-! ### Members of a normal form -/

/-- **A member of a normal form is the member of the value, in normal form.** -/
theorem get?_normal {members : List (String × Json)} (h : (members.map (·.1)).Nodup)
    (k : String) : get? (normal (.obj members)) k = (get? (.obj members) k).map normal := by
  have hperm := Keyed.find?_perm (sortMembers_perm members)
    (((sortMembers_perm members).map _).nodup_iff.mpr h) k
  rw [normal_obj, get?, get?, List.find?_map, ← hperm]
  generalize sortMembers members = sorted
  simp only [Function.comp_def, Option.map_map]

/-- The keys of a normal form are those of the value. -/
theorem keys_normal (members : List (String × Json)) :
    ∃ sorted, normal (.obj members) = .obj sorted ∧
      (sorted.map (·.1)).Perm (members.map (·.1)) := by
  refine ⟨_, normal_obj members, ?_⟩
  rw [List.map_map]
  exact (sortMembers_perm members).map _

/-- **Equal normal forms have equal members.** -/
theorem get?_normal_eq {members members' : List (String × Json)}
    (h : (members.map (·.1)).Nodup) (h' : (members'.map (·.1)).Nodup)
    (heq : normal (.obj members) = normal (.obj members')) (k : String) :
    (get? (.obj members) k).map normal = (get? (.obj members') k).map normal := by
  rw [← get?_normal h, heq, get?_normal h']

/-! ## Readers -/

section Readers

variable (scalar : List Char → Option (Json × List Char))
  (add : List (String × Json) → String → Json → Option (List (String × Json)))

mutual

/-- One value off the front. -/
def readValueBy : Nat → List Char → Option (Json × List Char)
  | 0, _ => none
  | _ + 1, [] => none
  | n + 1, c :: rest =>
      if c = '"' then
        (readString (rest.length + 1) rest).map fun r => (.str (String.ofList r.1), r.2)
      else if c = '[' then
        match skip rest with
        | ']' :: rest => some (.arr [], rest)
        | rest => (readElemsBy n rest).map fun r => (.arr r.1, r.2)
      else if c = '\x7b' then
        match skip rest with
        | '\x7d' :: rest => some (.obj [], rest)
        | rest => (readMembersBy n [] rest).map fun r => (.obj r.1, r.2)
      else scalar (c :: rest)

/-- The elements of a list up to its closing bracket. -/
def readElemsBy : Nat → List Char → Option (List Json × List Char)
  | 0, _ => none
  | n + 1, l => do
      let (v, rest) ← readValueBy n l
      match skip rest with
      | ']' :: rest => some ([v], rest)
      | ',' :: rest => do
          let (vs, rest) ← readElemsBy n (skip rest)
          some (v :: vs, rest)
      | _ => none

/-- The members of an object up to its closing brace. -/
def readMembersBy : Nat → List (String × Json) → List Char →
    Option (List (String × Json) × List Char)
  | 0, _, _ => none
  | n + 1, members, l =>
      match l with
      | '"' :: rest => do
          let (key, rest) ← readString (rest.length + 1) rest
          match skip rest with
          | ':' :: rest => do
              let (v, rest) ← readValueBy n (skip rest)
              let members ← add members (String.ofList key) v
              match skip rest with
              | '\x7d' :: rest => some (members, rest)
              | ',' :: rest => readMembersBy n members (skip rest)
              | _ => none
          | _ => none
      | _ => none

end

/-- The whole text is one value. -/
def loadsBy (s : String) : Option Json := do
  let l := skip s.toList
  let (v, rest) ← readValueBy scalar add (l.length + 1) l
  if skip rest = [] then some v else none

end Readers

/-- A key that occurs again is overwritten. -/
def overwrite (members : List (String × Json)) (key : String) (v : Json) :
    Option (List (String × Json)) := some (setMember members key v)

/-- **The reader of `JsonParse`** reads words and numbers, and overwrites. -/
theorem readValue_eq (n : Nat) :
    (∀ l, readValue n l = readValueBy readScalar overwrite n l) ∧
      (∀ l, readElems n l = readElemsBy readScalar overwrite n l) ∧
        ∀ members l, readMembers n members l = readMembersBy readScalar overwrite n members l := by
  induction n with
  | zero =>
    refine ⟨fun l => ?_, fun l => ?_, fun members l => ?_⟩
    · rw [readValue, readValueBy]
    · rw [readElems, readElemsBy]
    · rw [readMembers, readMembersBy]
  | succ n ih =>
    obtain ⟨hvalue, helems, hmembers⟩ := ih
    refine ⟨fun l => ?_, fun l => ?_, fun members l => ?_⟩
    · cases l with
      | nil => rw [readValue, readValueBy]
      | cons c l =>
        simp only [readValue, readValueBy, helems, hmembers, readScalar]
        all_goals rfl
    · simp only [readElems, readElemsBy, hvalue, helems]
      all_goals rfl
    · unfold readMembers readMembersBy
      simp only [hvalue, hmembers, overwrite]
      rfl

theorem loads_eq (s : String) : loads s = loadsBy readScalar overwrite s := by
  simp only [loads, loadsBy, (readValue_eq _).1]

/-! ## What is asked of a reader -/

/-- Words and numbers are read to where they end, and those the writer writes are read back. -/
structure ReadsScalars (scalar : List Char → Option (Json × List Char)) : Prop where
  append : ∀ {l r rest v}, scalar l = some (v, r) → Stops rest →
    scalar (l ++ rest) = some (v, r ++ rest)
  head : ∀ {l r v}, scalar l = some (v, r) → ∃ c t, l = c :: t ∧ scalarHead c = true
  null : scalar "null".toList = some (.null, [])
  true : scalar "true".toList = some (.bool true, [])
  false : scalar "false".toList = some (.bool false, [])
  int : ∀ n : Int, scalar (toString n).toList = some (.int n, [])

theorem readsScalars_readScalar : ReadsScalars readScalar :=
  ⟨readScalar_append, head_of_readScalar, rfl, rfl, rfl, readScalar_toString⟩

/-- A new key is added at the end. -/
def AddsNew (add : List (String × Json) → String → Json → Option (List (String × Json))) : Prop :=
  ∀ members key v, key ∉ members.map (·.1) → add members key v = some (members ++ [(key, v)])

theorem setMember_new {members : List (String × Json)} {key : String} (v : Json)
    (h : key ∉ members.map (·.1)) : setMember members key v = members ++ [(key, v)] := by
  unfold setMember
  apply if_neg
  rintro ⟨m, hm, rfl⟩
  exact h (List.mem_map_of_mem hm)

theorem addsNew_overwrite : AddsNew overwrite :=
  fun _ _ v h => congrArg some (setMember_new v h)

/-- Values a reader gives back: the keys of each object differ, and each float is read. -/
structure Readable (scalar : List Char → Option (Json × List Char)) (Ok : Json → Prop) :
    Prop where
  float : ∀ {literal}, Ok (.float literal) → scalar literal.toList = some (.float literal, [])
  arr : ∀ {l}, Ok (.arr l) → ∀ j ∈ l, Ok j
  obj : ∀ {l}, Ok (.obj l) → (l.map (·.1)).Nodup ∧ ∀ m ∈ l, Ok m.2

/-! ## Strings -/

section Escapes

variable {esc : Char → List Char} (hesc : ReadsBack esc)

include hesc

theorem readString_escaped (s rest : List Char) {n : Nat} (hn : s.length < n) :
    readString n (s.flatMap esc ++ '"' :: rest) = some (s, rest) := by
  induction s generalizing n with
  | nil =>
    obtain ⟨m, rfl⟩ : ∃ m, n = m + 1 := ⟨n - 1, by simp at hn; omega⟩
    simp [readString]
  | cons c s ih =>
    obtain ⟨m, rfl⟩ : ∃ m, n = m + 1 := ⟨n - 1, by simp at hn; omega⟩
    have hm : s.length < m := by simpa using hn
    rw [List.flatMap_cons, List.append_assoc, hesc.read, ih hm]
    rfl

theorem length_le_flatMap (s : List Char) : s.length ≤ (s.flatMap esc).length := by
  induction s with
  | nil => exact Nat.le_refl 0
  | cons c s ih =>
    have hpos := List.length_pos_iff.mpr (hesc.ne_nil c)
    rw [List.flatMap_cons, List.length_append, List.length_cons]
    omega

/-- A written key or string, behind its opening quote. -/
theorem readString_quoteBy (s : String) (rest : List Char) :
    readString ((s.toList.flatMap esc ++ '"' :: rest).length + 1)
      (s.toList.flatMap esc ++ '"' :: rest) = some (s.toList, rest) := by
  apply readString_escaped hesc
  have hle := length_le_flatMap hesc s.toList
  rw [List.length_append]
  omega

omit hesc in
theorem quoteBy_append (s : String) (rest : List Char) :
    quoteBy esc s ++ rest = '"' :: (s.toList.flatMap esc ++ '"' :: rest) := by
  simp [quoteBy]

end Escapes

/-! ## Separated lists -/

/-- A separated list starts with its first element. -/
theorem intercalate_cons_append (a : List Char) (l : List (List Char)) (x : List Char) :
    ∃ r, List.intercalate [','] (a :: l) ++ x = a ++ r := by
  cases l with
  | nil => exact ⟨x, by rw [List.intercalate_singleton]⟩
  | cons b l =>
    rw [List.intercalate_cons_cons, List.append_assoc, List.append_assoc]
    exact ⟨_, rfl⟩

/-- A separated list is its first element, a comma and the others. -/
theorem intercalate_cons_cons_append (a b : List Char) (l : List (List Char)) (x : List Char) :
    List.intercalate [','] (a :: b :: l) ++ x =
      a ++ ',' :: (List.intercalate [','] (b :: l) ++ x) := by
  simp

theorem length_intercalate_cons_cons (a b : List Char) (l : List (List Char)) :
    (List.intercalate [','] (a :: b :: l)).length =
      a.length + 1 + (List.intercalate [','] (b :: l)).length := by
  rw [List.intercalate_cons_cons, List.length_append, List.length_append]
  rfl

/-! ## Written values -/

section Written

variable {scalar : List Char → Option (Json × List Char)}
  {add : List (String × Json) → String → Json → Option (List (String × Json))}
  {Ok : Json → Prop} {esc : Char → List Char}

theorem readValueBy_scalar {n : Nat} {c : Char} {l : List Char} (hquote : c ≠ '"')
    (harr : c ≠ '[') (hobj : c ≠ '\x7b') :
    readValueBy scalar add (n + 1) (c :: l) = scalar (c :: l) := by
  rw [readValueBy, if_neg hquote, if_neg harr, if_neg hobj]

theorem readValueBy_of_scalar (hscalar : ReadsScalars scalar) {l r rest : List Char} {v : Json}
    (hread : scalar l = some (v, r)) (h : Stops rest) (n : Nat) :
    readValueBy scalar add (n + 1) (l ++ rest) = some (v, r ++ rest) := by
  obtain ⟨c, t, rfl, hc⟩ := hscalar.head hread
  have hne : ∀ d, scalarHead d = false → c ≠ d := by
    rintro d hd rfl
    exact absurd hc (Bool.eq_false_iff.mp hd)
  rw [List.cons_append, readValueBy_scalar (hne '"' rfl) (hne '[' rfl) (hne '\x7b' rfl),
    ← List.cons_append]
  exact hscalar.append hread h

/-- A list that does not close at once is read by its elements. -/
theorem readValueBy_open {n : Nat} {l : List Char} (hskip : skip l = l)
    (hopen : l.head? ≠ some ']') :
    readValueBy scalar add (n + 1) ('[' :: l) =
      (readElemsBy scalar add n l).map fun r => (.arr r.1, r.2) := by
  rw [readValueBy, if_neg (by decide), if_pos rfl, hskip]
  split
  · exact absurd rfl hopen
  · rfl

/-- An object that does not close at once is read by its members. -/
theorem readValueBy_brace {n : Nat} {l : List Char} (hskip : skip l = l)
    (hopen : l.head? ≠ some '\x7d') :
    readValueBy scalar add (n + 1) ('\x7b' :: l) =
      (readMembersBy scalar add n [] l).map fun r => (.obj r.1, r.2) := by
  rw [readValueBy, if_neg (by decide), if_neg (by decide), if_pos rfl, hskip]
  split
  · exact absurd rfl hopen
  · rfl

/-- The text of `j` reads back as its normal form wherever a value may stand. -/
def ReadsBy (scalar : List Char → Option (Json × List Char))
    (add : List (String × Json) → String → Json → Option (List (String × Json)))
    (esc : Char → List Char) (j : Json) : Prop :=
  ∀ n rest, (textBy esc j).length < n → Stops rest →
    readValueBy scalar add n (textBy esc j ++ rest) = some (normal j, rest)

/-- A word or a number reads back. -/
theorem readsBy_scalar (hscalar : ReadsScalars scalar) {j : Json} {r : List Char}
    (hread : scalar r = some (j, [])) (htext : textBy esc j = r) (hnormal : normal j = j) :
    ReadsBy scalar add esc j := by
  intro n rest hn hrest
  obtain ⟨m, rfl⟩ : ∃ m, n = m + 1 := ⟨n - 1, by omega⟩
  rw [htext, hnormal]
  exact readValueBy_of_scalar hscalar hread hrest m

theorem readsBy_str (hesc : ReadsBack esc) (s : String) : ReadsBy scalar add esc (.str s) := by
  intro n rest hn _
  obtain ⟨m, rfl⟩ : ∃ m, n = m + 1 := ⟨n - 1, by omega⟩
  rw [textBy, quoteBy_append, readValueBy, if_pos rfl, readString_quoteBy hesc, Option.map_some,
    String.ofList_toList]
  rfl

variable (hscalar : ReadsScalars scalar) (hok : Readable scalar Ok)

include hscalar hok

variable (esc) in
/-- Characters that begin a value. -/
theorem head_of_textBy {j : Json} (h : Ok j) : ∃ c t, textBy esc j = c :: t ∧
    (scalarHead c = true ∨ c = '"' ∨ c = '[' ∨ c = '\x7b') := by
  cases j with
  | null => exact ⟨'n', _, rfl, .inl rfl⟩
  | bool b =>
    cases b with
    | true => exact ⟨'t', _, rfl, .inl rfl⟩
    | false => exact ⟨'f', _, rfl, .inl rfl⟩
  | int n =>
    obtain ⟨c, t, hc, hhead⟩ := hscalar.head (hscalar.int n)
    exact ⟨c, t, hc, .inl hhead⟩
  | float literal =>
    obtain ⟨c, t, hc, hhead⟩ := hscalar.head (hok.float h)
    exact ⟨c, t, hc, .inl hhead⟩
  | str s => exact ⟨'"', _, rfl, .inr (.inl rfl)⟩
  | arr elems => exact ⟨'[', _, by rw [textBy]; rfl, .inr (.inr (.inl rfl))⟩
  | obj members => exact ⟨'\x7b', _, by rw [textBy]; rfl, .inr (.inr (.inr rfl))⟩

variable (esc) in
/-- A value's text is not white space at its beginning, and closes nothing. -/
theorem skip_textBy {j : Json} (h : Ok j) (rest : List Char) :
    skip (textBy esc j ++ rest) = textBy esc j ++ rest ∧
      (textBy esc j ++ rest).head? ≠ some ']' := by
  obtain ⟨c, t, hc, hhead⟩ := head_of_textBy esc hscalar hok h
  have hne : ∀ d, scalarHead d = false ∧ d ≠ '"' ∧ d ≠ '[' ∧ d ≠ '\x7b' → c ≠ d := by
    rintro d ⟨hd, hquote, harr, hobj⟩ rfl
    rcases hhead with hhead | hhead | hhead | hhead
    · exact absurd hhead (Bool.eq_false_iff.mp hd)
    · exact hquote hhead
    · exact harr hhead
    · exact hobj hhead
  rw [hc, List.cons_append]
  refine ⟨List.dropWhile_cons_of_neg ?_, ?_⟩
  · simp [hne ' ' (by decide), hne '\t' (by decide), hne '\n' (by decide), hne '\r' (by decide)]
  · simp [hne ']' (by decide)]

/-- The elements of a written list read back. -/
theorem readElemsBy_texts {l : List Json} (hne : l ≠ []) (hl : ∀ j ∈ l, Ok j)
    (h : ∀ j ∈ l, ReadsBy scalar add esc j) (rest : List Char) {n : Nat}
    (hn : (List.intercalate [','] (l.map (textBy esc))).length + 1 < n) :
    readElemsBy scalar add n (List.intercalate [','] (l.map (textBy esc)) ++ ']' :: rest) =
      some (l.map normal, rest) := by
  induction l generalizing n with
  | nil => exact absurd rfl hne
  | cons j l ih =>
    obtain ⟨m, rfl⟩ : ∃ m, n = m + 1 := ⟨n - 1, by omega⟩
    have hj := h j List.mem_cons_self
    cases l with
    | nil =>
      simp only [List.map_cons, List.map_nil, List.intercalate_singleton] at hn ⊢
      rw [readElemsBy, hj m _ (by omega) (.cons (.inr (.inl rfl)))]
      rfl
    | cons j' l =>
      rw [List.map_cons, List.map_cons, length_intercalate_cons_cons, ← List.map_cons] at hn
      have hrest := ih (List.cons_ne_nil _ _) (fun j h => hl j (List.mem_cons_of_mem _ h))
        (fun j hj => h j (List.mem_cons_of_mem _ hj)) (n := m) (by omega)
      obtain ⟨r, hr⟩ := intercalate_cons_append (textBy esc j') (l.map (textBy esc)) (']' :: rest)
      have hskip := (skip_textBy esc hscalar hok (hl j' (by simp)) r).1
      rw [← hr, ← List.map_cons] at hskip
      rw [List.map_cons, List.map_cons, intercalate_cons_cons_append, ← List.map_cons, readElemsBy,
        hj m _ (by omega) (.cons (.inl rfl))]
      simp only [Option.bind_eq_bind, Option.bind_some, skip_comma, hskip, hrest]
      rfl

theorem readsBy_arr {l : List Json} (h : ∀ j ∈ l, Ok j ∧ ReadsBy scalar add esc j) :
    ReadsBy scalar add esc (.arr l) := by
  intro n rest hn _
  obtain ⟨m, rfl⟩ : ∃ m, n = m + 1 := ⟨n - 1, by omega⟩
  rw [normal, elemsNormal_eq_map]
  cases l with
  | nil => rfl
  | cons j l =>
    rw [textBy_arr, List.length_append, List.length_cons] at hn
    simp only [List.length_cons, List.length_nil] at hn
    obtain ⟨r, hr⟩ := intercalate_cons_append (textBy esc j) (l.map (textBy esc)) (']' :: rest)
    obtain ⟨hskip, hopen⟩ := skip_textBy esc hscalar hok (h j List.mem_cons_self).1 r
    rw [← hr, ← List.map_cons] at hskip hopen
    have htext : textBy esc (.arr (j :: l)) ++ rest =
        '[' :: (List.intercalate [','] ((j :: l).map (textBy esc)) ++ ']' :: rest) := by
      rw [textBy_arr, List.append_assoc, List.cons_append]
      rfl
    rw [htext, readValueBy_open hskip hopen, readElemsBy_texts hscalar hok (List.cons_ne_nil _ _)
      (fun j hj => (h j hj).1) (fun j hj => (h j hj).2) rest (by omega)]
    rfl

variable (hesc : ReadsBack esc) (hadd : AddsNew add)

include hesc hadd

/-- A written member reads back. -/
theorem readMembersBy_member {k : String} {j : Json} (hj : Ok j) {m : Nat}
    {acc : List (String × Json)} (hnew : k ∉ acc.map (·.1)) (rest : List Char) :
    (readValueBy scalar add m (textBy esc j ++ '\x7d' :: rest) =
        some (normal j, '\x7d' :: rest) →
      readMembersBy scalar add (m + 1) acc (memberBy esc (k, j) ++ '\x7d' :: rest) =
        some (acc ++ [(k, normal j)], rest)) ∧
    (readValueBy scalar add m (textBy esc j ++ ',' :: rest) = some (normal j, ',' :: rest) →
      readMembersBy scalar add (m + 1) acc (memberBy esc (k, j) ++ ',' :: rest) =
        readMembersBy scalar add m (acc ++ [(k, normal j)]) (skip rest)) := by
  have htext : ∀ x, memberBy esc (k, j) ++ x =
      '"' :: (k.toList.flatMap esc ++ '"' :: (':' :: (textBy esc j ++ x))) := by
    intro x
    rw [memberBy, memberText, List.append_assoc, quoteBy_append]
    rfl
  have hcolon : ∀ x, skip (':' :: x) = ':' :: x := fun _ => rfl
  have hbrace : skip ('\x7d' :: rest) = '\x7d' :: rest := rfl
  constructor
  · intro hread
    rw [htext, readMembersBy]
    simp only [readString_quoteBy hesc, Option.bind_eq_bind, Option.bind_some, hcolon,
      (skip_textBy esc hscalar hok hj _).1, hread, String.ofList_toList, hbrace, hadd _ _ _ hnew]
  · intro hread
    rw [htext, readMembersBy]
    simp only [readString_quoteBy hesc, Option.bind_eq_bind, Option.bind_some, hcolon,
      (skip_textBy esc hscalar hok hj _).1, hread, String.ofList_toList, skip_comma,
      hadd _ _ _ hnew]

omit hscalar hok hesc hadd in
variable (esc) in
/-- A separated list of members starts with a quote. -/
theorem skip_memberBy (m : String × Json) (r : List Char) :
    skip (memberBy esc m ++ r) = memberBy esc m ++ r ∧
      (memberBy esc m ++ r).head? ≠ some '\x7d' := by
  refine ⟨rfl, ?_⟩
  intro h
  cases h

/-- The members of a written object read back. -/
theorem readMembersBy_texts {l : List (String × Json)} (hne : l ≠ []) (hl : ∀ m ∈ l, Ok m.2)
    (h : ∀ m ∈ l, ReadsBy scalar add esc m.2) {acc : List (String × Json)}
    (hkeys : (acc.map (·.1) ++ l.map (·.1)).Nodup) (rest : List Char) {n : Nat}
    (hn : (List.intercalate [','] (l.map (memberBy esc))).length + 1 < n) :
    readMembersBy scalar add n acc
        (List.intercalate [','] (l.map (memberBy esc)) ++ '\x7d' :: rest) =
      some (acc ++ l.map fun m => (m.1, normal m.2), rest) := by
  induction l generalizing n acc with
  | nil => exact absurd rfl hne
  | cons m l ih =>
    obtain ⟨k, j⟩ := m
    obtain ⟨n, rfl⟩ : ∃ n', n = n' + 1 := ⟨n - 1, by omega⟩
    have hj : ReadsBy scalar add esc j := h (k, j) List.mem_cons_self
    have hokj : Ok j := hl (k, j) List.mem_cons_self
    have hnew : k ∉ acc.map (·.1) := by
      intro hmem
      exact (List.nodup_append.mp hkeys).2.2 k hmem k List.mem_cons_self rfl
    have hlength : (memberBy esc (k, j)).length =
        (quoteBy esc k).length + 1 + (textBy esc j).length := by
      rw [memberBy, memberText, List.length_append, List.length_cons]
      dsimp only
      omega
    cases l with
    | nil =>
      simp only [List.map_cons, List.map_nil, List.intercalate_singleton] at hn ⊢
      exact (readMembersBy_member hscalar hok hesc hadd hokj hnew rest).1
        (hj n _ (by omega) (.cons (.inr (.inr rfl))))
    | cons m' l =>
      rw [List.map_cons, List.map_cons, length_intercalate_cons_cons, ← List.map_cons] at hn
      have hkeys' : (((acc ++ [(k, normal j)]).map (·.1)) ++ (m' :: l).map (·.1)).Nodup := by
        rw [List.map_append, List.append_assoc]
        exact hkeys
      have hrest := ih (List.cons_ne_nil _ _) (fun m h => hl m (List.mem_cons_of_mem _ h))
        (fun m hm => h m (List.mem_cons_of_mem _ hm)) hkeys' (n := n) (by omega)
      obtain ⟨r, hr⟩ := intercalate_cons_append (memberBy esc m') (l.map (memberBy esc))
        ('\x7d' :: rest)
      have hskip := (skip_memberBy esc m' r).1
      rw [← hr, ← List.map_cons] at hskip
      rw [List.map_cons, List.map_cons, intercalate_cons_cons_append, ← List.map_cons,
        (readMembersBy_member hscalar hok hesc hadd hokj hnew _).2
          (hj n _ (by omega) (.cons (.inl rfl))), hskip, hrest, List.append_assoc]
      rfl

/-- An object ends with its brace, whatever follows. -/
theorem readValueBy_obj {l : List (String × Json)} (hkeys : (l.map (·.1)).Nodup)
    (h : ∀ m ∈ l, Ok m.2 ∧ ReadsBy scalar add esc m.2) {n : Nat} (rest : List Char)
    (hn : (textBy esc (.obj l)).length < n) :
    readValueBy scalar add n (textBy esc (.obj l) ++ rest) = some (normal (.obj l), rest) := by
  obtain ⟨m, rfl⟩ : ∃ m, n = m + 1 := ⟨n - 1, by omega⟩
  have hperm := sortMembers_perm l
  have hsorted : ∀ m ∈ sortMembers l, Ok m.2 ∧ ReadsBy scalar add esc m.2 := fun m hm =>
    h m (hperm.mem_iff.mp hm)
  have hnodup : ((sortMembers l).map (·.1)).Nodup := (hperm.map _).nodup_iff.mpr hkeys
  rw [textBy_obj] at hn
  rw [textBy_obj, normal_obj]
  generalize sortMembers l = sorted at hsorted hnodup hn
  cases sorted with
  | nil => rfl
  | cons e sorted =>
    rw [List.length_append, List.length_cons] at hn
    simp only [List.length_cons, List.length_nil] at hn
    obtain ⟨r, hr⟩ := intercalate_cons_append (memberBy esc e) (sorted.map (memberBy esc))
      ('\x7d' :: rest)
    obtain ⟨hskip, hopen⟩ := skip_memberBy esc e r
    rw [← hr, ← List.map_cons] at hskip hopen
    have htext : '\x7b' :: List.intercalate [','] ((e :: sorted).map (memberBy esc)) ++ ['\x7d'] ++
        rest = '\x7b' :: (List.intercalate [','] ((e :: sorted).map (memberBy esc)) ++
          '\x7d' :: rest) := by
      rw [List.append_assoc, List.cons_append]
      rfl
    rw [htext, readValueBy_brace hskip hopen, readMembersBy_texts hscalar hok hesc hadd
      (List.cons_ne_nil _ _) (fun m hm => (hsorted m hm).1) (fun m hm => (hsorted m hm).2)
      (show (([] : List (String × Json)).map (·.1) ++ _).Nodup from hnodup) rest (by omega)]
    rfl

theorem readsBy_obj {l : List (String × Json)} (hkeys : (l.map (·.1)).Nodup)
    (h : ∀ m ∈ l, Ok m.2 ∧ ReadsBy scalar add esc m.2) : ReadsBy scalar add esc (.obj l) :=
  fun _ rest hn _ => readValueBy_obj hscalar hok hesc hadd hkeys h rest hn

end Written

/-! ## Every value -/

section Values

variable {scalar : List Char → Option (Json × List Char)}
  {add : List (String × Json) → String → Json → Option (List (String × Json))}
  {Ok : Json → Prop} {esc : Char → List Char}

mutual

/-- **The text of a value is read back as its normal form.** -/
theorem readsBy_of_ok (hscalar : ReadsScalars scalar) (hok : Readable scalar Ok)
    (hesc : ReadsBack esc) (hadd : AddsNew add) : ∀ j : Json, Ok j → ReadsBy scalar add esc j
  | .null, _ => readsBy_scalar hscalar hscalar.null rfl rfl
  | .bool true, _ => readsBy_scalar hscalar hscalar.true rfl rfl
  | .bool false, _ => readsBy_scalar hscalar hscalar.false rfl rfl
  | .int k, _ => readsBy_scalar hscalar (hscalar.int k) rfl rfl
  | .float _, h => readsBy_scalar hscalar (hok.float h) rfl rfl
  | .str s, _ => readsBy_str hesc s
  | .arr elems, h =>
      readsBy_arr hscalar hok (elems_readBy hscalar hok hesc hadd elems (hok.arr h))
  | .obj members, h =>
      readsBy_obj hscalar hok hesc hadd (hok.obj h).1
        (members_readBy hscalar hok hesc hadd members (hok.obj h).2)

theorem elems_readBy (hscalar : ReadsScalars scalar) (hok : Readable scalar Ok)
    (hesc : ReadsBack esc) (hadd : AddsNew add) :
    ∀ l : List Json, (∀ j ∈ l, Ok j) → ∀ j ∈ l, Ok j ∧ ReadsBy scalar add esc j
  | [], _ => fun _ h => absurd h List.not_mem_nil
  | j :: l, h =>
      List.forall_mem_cons.mpr
        ⟨⟨h j List.mem_cons_self, readsBy_of_ok hscalar hok hesc hadd j (h j List.mem_cons_self)⟩,
          elems_readBy hscalar hok hesc hadd l fun j hj => h j (List.mem_cons_of_mem _ hj)⟩

theorem members_readBy (hscalar : ReadsScalars scalar) (hok : Readable scalar Ok)
    (hesc : ReadsBack esc) (hadd : AddsNew add) :
    ∀ l : List (String × Json), (∀ m ∈ l, Ok m.2) →
      ∀ m ∈ l, Ok m.2 ∧ ReadsBy scalar add esc m.2
  | [], _ => fun _ h => absurd h List.not_mem_nil
  | (k, j) :: l, h =>
      List.forall_mem_cons.mpr
        ⟨⟨h (k, j) List.mem_cons_self,
            readsBy_of_ok hscalar hok hesc hadd j (h (k, j) List.mem_cons_self)⟩,
          members_readBy hscalar hok hesc hadd l fun m hm => h m (List.mem_cons_of_mem _ hm)⟩

end

/-- **The whole text is read back.** -/
theorem loadsBy_textBy (hscalar : ReadsScalars scalar) (hok : Readable scalar Ok)
    (hesc : ReadsBack esc) (hadd : AddsNew add) {j : Json} (h : Ok j) :
    loadsBy scalar add (String.ofList (textBy esc j)) = some (normal j) := by
  have hskip := (skip_textBy esc hscalar hok h []).1
  have hread := readsBy_of_ok hscalar hok hesc hadd j h ((textBy esc j).length + 1) []
    (Nat.lt_succ_self _) .nil
  rw [List.append_nil] at hskip hread
  simp only [loadsBy, String.toList_ofList, hskip, hread, Option.bind_eq_bind, Option.bind_some]
  rfl

/-- The text of an object is read back when white space follows it. -/
theorem loadsBy_textBy_white (hscalar : ReadsScalars scalar) (hok : Readable scalar Ok)
    (hesc : ReadsBack esc) (hadd : AddsNew add) {l : List (String × Json)} (h : Ok (.obj l))
    {white : List Char} (hwhite : skip white = []) :
    loadsBy scalar add (String.ofList (textBy esc (.obj l) ++ white)) =
      some (normal (.obj l)) := by
  have hskip := (skip_textBy esc hscalar hok h white).1
  have hlength : (textBy esc (.obj l)).length < (textBy esc (.obj l) ++ white).length + 1 := by
    rw [List.length_append]
    omega
  have hread := readValueBy_obj hscalar hok hesc hadd (hok.obj h).1
    (members_readBy hscalar hok hesc hadd l (hok.obj h).2) white hlength
  simp only [loadsBy, String.toList_ofList, hskip, hread, Option.bind_eq_bind, Option.bind_some,
    if_pos hwhite]

end Values

end NightRecon.Lib.Json
