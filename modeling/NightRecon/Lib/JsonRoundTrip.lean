import NightRecon.Lib.JsonReader

/-!
# Written JSON reads back

The reader of `JsonParse` on the texts of `JsonText`.

* `valid` — values a writer can be given: keys of one object differ, and a float's literal is one
  the reader gives back;
* `loads_textBy` — **a valid value reads back as its normal form**, under every escaping the string
  reader undoes; `normal_eq_of_write_eq` and `normal_eq_of_dumps_eq` follow: texts tell normal forms
  apart.
-/

namespace NightRecon.Lib.Json

open NightRecon.Lib.Text

/-! ## Valid values -/

mutual

/-- The keys of each object differ, and each float's literal is one the reader gives back. -/
def valid : Json → Prop
  | .float literal => isFloatText literal
  | .arr elems => elemsValid elems
  | .obj members => (members.map (·.1)).Nodup ∧ membersValid members
  | _ => True

def elemsValid : List Json → Prop
  | [] => True
  | j :: elems => valid j ∧ elemsValid elems

def membersValid : List (String × Json) → Prop
  | [] => True
  | (_, j) :: members => valid j ∧ membersValid members

end

theorem elemsValid_iff {l : List Json} : elemsValid l ↔ ∀ j ∈ l, valid j := by
  induction l with
  | nil => exact iff_of_true trivial fun _ h => absurd h List.not_mem_nil
  | cons j l ih => rw [elemsValid, ih, List.forall_mem_cons]

theorem membersValid_iff {l : List (String × Json)} :
    membersValid l ↔ ∀ m ∈ l, valid m.2 := by
  induction l with
  | nil => exact iff_of_true trivial fun _ h => absurd h List.not_mem_nil
  | cons m l ih => rw [membersValid, ih, List.forall_mem_cons]

theorem readable_valid : Readable readScalar valid where
  float h := h
  arr h := elemsValid_iff.mp h
  obj h := ⟨h.1, membersValid_iff.mp h.2⟩

/-! ## Every valid value -/

/-- The text of `j` reads back as its normal form wherever a value may stand. -/
def Reads (esc : Char → List Char) (j : Json) : Prop :=
  ∀ n rest, (textBy esc j).length < n → Stops rest →
    readValue n (textBy esc j ++ rest) = some (normal j, rest)

/-- **A valid value's text reads back as its normal form.** -/
theorem reads_of_valid {esc : Char → List Char} (hesc : ReadsBack esc) (j : Json)
    (h : valid j) : Reads esc j := by
  intro n rest hn hrest
  rw [(readValue_eq n).1]
  exact readsBy_of_ok readsScalars_readScalar readable_valid hesc addsNew_overwrite j h n rest hn
    hrest

/-- **The text of a valid value is read back.** -/
theorem loads_textBy {esc : Char → List Char} (hesc : ReadsBack esc) {j : Json} (h : valid j) :
    loads (String.ofList (textBy esc j)) = some (normal j) := by
  rw [loads_eq]
  exact loadsBy_textBy readsScalars_readScalar readable_valid hesc addsNew_overwrite h

theorem write_eq_textBy (j : Json) : write j = String.ofList (textBy escapeChar j) := by
  rw [write, textBy_escapeChar]

/-- The canonical text is read back. -/
theorem loads_write {j : Json} (h : valid j) : loads (write j) = some (normal j) := by
  rw [write_eq_textBy]
  exact loads_textBy readsBack_escapeChar h

/-- The ASCII text is read back. -/
theorem loads_dumps {j : Json} (h : valid j) : loads (dumps j) = some (normal j) :=
  loads_textBy readsBack_asciiEscape h

/-- The ASCII text of an object with a line feed behind it is read back. -/
theorem loads_dumps_line {members : List (String × Json)} (h : valid (.obj members)) :
    loads (dumps (.obj members) ++ "\n") = some (normal (.obj members)) := by
  have htext : dumps (.obj members) ++ "\n" =
      String.ofList (textBy asciiEscape (.obj members) ++ ['\n']) := by
    rw [dumps, String.ofList_append]
  rw [htext, loads_eq]
  exact loadsBy_textBy_white readsScalars_readScalar readable_valid readsBack_asciiEscape
    addsNew_overwrite h (by decide)

theorem normal_eq_of_write_eq {j j' : Json} (h : valid j) (h' : valid j')
    (htext : write j = write j') : normal j = normal j' := by
  have hread := loads_write h
  rw [htext, loads_write h'] at hread
  exact (Option.some.inj hread).symm

theorem normal_eq_of_dumps_eq {j j' : Json} (h : valid j) (h' : valid j')
    (htext : dumps j = dumps j') : normal j = normal j' := by
  have hread := loads_dumps h
  rw [htext, loads_dumps h'] at hread
  exact (Option.some.inj hread).symm

/-! ## Common shapes -/

@[simp] theorem valid_strings (l : List String) : valid (strings l) := by
  rw [strings, valid, elemsValid_iff]
  intro j hj
  obtain ⟨s, -, rfl⟩ := List.mem_map.mp hj
  exact trivial

@[simp] theorem normal_strings (l : List String) : normal (strings l) = strings l := by
  rw [strings, normal, elemsNormal_eq_map, List.map_map]
  rfl

@[simp] theorem valid_ofOption (s : Option String) : valid (ofOption s) := by
  cases s <;> exact trivial

@[simp] theorem normal_ofOption (s : Option String) : normal (ofOption s) = ofOption s := by
  cases s <;> rfl

end NightRecon.Lib.Json
