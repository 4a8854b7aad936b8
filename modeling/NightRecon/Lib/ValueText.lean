import NightRecon.Lib.JsonRoundTrip
import NightRecon.Lib.Value

/-!
# Values and their texts

What a text says of the value it was written from.  Reading a text back sorts the members of every
object, which neither the text nor the language's `==` can see.

* `textBy_normal` — a normal form has the text of its value;
* `canon_ofJson_normal` — and the canonical form of its value;
* `Value.IsJson` — a value that is a JSON value: no tuple, differing keys, real float literals;
* `canon_reread`, `canon_eq_of_normal_eq` — a JSON value is equal to what it reads back as, and
  JSON values with one normal form are equal.
-/

namespace NightRecon.Lib.Json

/-! ## Sorting twice -/

theorem sortMembers_sortMembers {α : Type} (l : List (String × α)) :
    sortMembers (sortMembers l) = sortMembers l := by
  have htotal : Std.Total fun a b : String × α => a.1 ≤ b.1 := ⟨fun a b => le_total a.1 b.1⟩
  have htrans : IsTrans (String × α) fun a b => a.1 ≤ b.1 := ⟨fun _ _ _ h h' => le_trans h h'⟩
  exact List.Pairwise.insertionSort_eq (List.pairwise_insertionSort _ l)

/-! ## Texts -/

mutual

/-- **A normal form is written like its value.** -/
theorem textBy_normal (esc : Char → List Char) : ∀ j : Json, textBy esc (normal j) = textBy esc j
  | .null | .bool _ | .int _ | .float _ | .str _ => rfl
  | .arr elems => by
      rw [normal, textBy, textBy, elemTexts_normal esc elems]
  | .obj members => by
      rw [normal, textBy, textBy, memberTexts_eq_map, sortMembers_map, sortMembers_sortMembers,
        ← sortMembers_map, ← memberTexts_eq_map, memberTexts_normal esc members]

theorem elemTexts_normal (esc : Char → List Char) :
    ∀ l : List Json, elemTexts esc (elemsNormal l) = elemTexts esc l
  | [] => rfl
  | j :: l => by rw [elemsNormal, elemTexts, elemTexts, textBy_normal esc j, elemTexts_normal esc l]

theorem memberTexts_normal (esc : Char → List Char) :
    ∀ l : List (String × Json), memberTexts esc (membersNormal l) = memberTexts esc l
  | [] => rfl
  | (k, j) :: l => by
      rw [membersNormal, memberTexts, memberTexts, textBy_normal esc j, memberTexts_normal esc l]

end

end NightRecon.Lib.Json

namespace NightRecon.Lib.Value

open NightRecon.Lib.Json

/-! ## Canonical forms -/

theorem canonMembers_eq_map (l : List (String × Value)) :
    canonMembers l = l.map fun m => (m.1, canon m.2) := by
  induction l with
  | nil => rfl
  | cons m l ih => rw [canonMembers, ih, List.map_cons]

theorem membersOfJson_eq_map (l : List (String × Json)) :
    membersOfJson l = l.map fun m => (m.1, ofJson m.2) := by
  induction l with
  | nil => rfl
  | cons m l ih => rw [membersOfJson, ih, List.map_cons]

/-- Sorting the members of an object is not seen by the canonical form of its value. -/
theorem canon_sortMembers (l : List (String × Json)) :
    canon (.dict (membersOfJson (sortMembers l))) = canon (.dict (membersOfJson l)) := by
  have hmap : ∀ l : List (String × Json), canonMembers (membersOfJson l) =
      l.map fun m => (m.1, canon (ofJson m.2)) := by
    intro l
    rw [canonMembers_eq_map, membersOfJson_eq_map, List.map_map]
    rfl
  have hsort : ∀ l : List (String × Canon),
      l.insertionSort (fun a b => a.1 ≤ b.1) = sortMembers l := fun _ => rfl
  rw [canon, canon, hmap, hmap, hsort, hsort, ← sortMembers_map fun j => canon (ofJson j),
    sortMembers_sortMembers]

mutual

/-- **A normal form is read as an equal value.** -/
theorem canon_ofJson_normal : ∀ j : Json, canon (ofJson (normal j)) = canon (ofJson j)
  | .null | .bool _ | .int _ | .float _ | .str _ => rfl
  | .arr elems => by
      rw [normal, ofJson, ofJson, canon, canon, canonList_normal elems]
  | .obj members => by
      rw [normal, ofJson, canon_sortMembers, ofJson, canon, canon, canonMembers_normal members]

theorem canonList_normal : ∀ l : List Json,
    canonList (listOfJson (elemsNormal l)) = canonList (listOfJson l)
  | [] => rfl
  | j :: l => by
      rw [elemsNormal, listOfJson, listOfJson, canonList, canonList, canon_ofJson_normal j,
        canonList_normal l]

theorem canonMembers_normal : ∀ l : List (String × Json),
    canonMembers (membersOfJson (membersNormal l)) = canonMembers (membersOfJson l)
  | [] => rfl
  | (k, j) :: l => by
      rw [membersNormal, membersOfJson, membersOfJson, canonMembers, canonMembers,
        canon_ofJson_normal j, canonMembers_normal l]

end

/-! ## JSON values -/

/-- The value is a JSON value. -/
def IsJson (v : Value) : Prop := v.tupleFree = true ∧ valid v.toJson

/-- What a JSON value reads back as is equal to it. -/
theorem canon_reread {v : Value} (h : v.IsJson) : canon (ofJson (normal v.toJson)) = canon v := by
  rw [canon_ofJson_normal, ofJson_toJson v h.1]

/-- **JSON values with equal normal forms are equal.** -/
theorem canon_eq_of_normal_eq {v v' : Value} (h : v.IsJson) (h' : v'.IsJson)
    (heq : normal v.toJson = normal v'.toJson) : canon v = canon v' := by
  rw [← canon_reread h, heq, canon_reread h']

end NightRecon.Lib.Value
