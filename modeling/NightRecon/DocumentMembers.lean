import NightRecon.Documents
import NightRecon.Lib.JsonRoundTrip

/-!
# The members of a document, written and read back

A `to_dict` function lists the members of a document and `from_dict` looks them up again.  Between
the two the document is written as text, which sorts the members by key.

* `Has doc members` — the document looks up every listed member; `HasExactly` — and it has no other
  key;
* `hasExactly_normal` — what is read back from the text of a document has the members that were
  written, each in normal form;
* `eq_of_write_eq` — documents with one text give one value to every reader that looks up only the
  members written.
-/

namespace NightRecon.DocumentMembers

open NightRecon.Lib
open NightRecon.Lib.Json
open NightRecon.Documents

/-- The document looks up every member of the list. -/
def Has (doc : Json) (members : List (String × Json)) : Prop :=
  ∀ m ∈ members, doc.get? m.1 = some m.2

/-- The document is an object with the keys of the list and looks up every member of it. -/
structure HasExactly (doc : Json) (members : List (String × Json)) : Prop where
  keys : keys? doc = some (members.map (·.1)).toFinset
  has : Has doc members

/-- The members with their values in normal form. -/
def normalMembers (members : List (String × Json)) : List (String × Json) :=
  members.map fun m => (m.1, normal m.2)

variable {doc : Json} {members members' : List (String × Json)}

@[simp] theorem has_cons {m : String × Json} :
    Has doc (m :: members) ↔ doc.get? m.1 = some m.2 ∧ Has doc members :=
  List.forall_mem_cons

@[simp] theorem has_nil : Has doc [] ↔ True := by simp [Has]

theorem Has.append_left (h : Has doc (members ++ members')) : Has doc members :=
  fun m hm => h m (List.mem_append_left _ hm)

theorem has_obj (h : (members.map (·.1)).Nodup) : Has (.obj members) members := by
  intro m hm
  have hfind : members.find? (fun m' => decide (m'.1 = m.1)) = some m :=
    (Keyed.find?_eq_some_iff h).mpr ⟨hm, rfl⟩
  rw [get?, hfind, Option.map_some]

theorem hasExactly_obj (h : (members.map (·.1)).Nodup) : HasExactly (.obj members) members :=
  ⟨rfl, has_obj h⟩

/-- **What is read back has the members that were written**, each in normal form. -/
theorem hasExactly_normal (h : (members.map (·.1)).Nodup) :
    HasExactly (normal (.obj members)) (normalMembers members) := by
  obtain ⟨sorted, hsorted, hperm⟩ := keys_normal members
  have hkeys : (normalMembers members).map (·.1) = members.map (·.1) := by
    simp [normalMembers, Function.comp_def]
  constructor
  · rw [hsorted, keys?, hkeys]
    exact congrArg some (List.toFinset_eq_of_perm _ _ hperm)
  · intro m hm
    obtain ⟨m', hm', rfl⟩ := List.mem_map.mp hm
    rw [get?_normal h, has_obj h m' hm', Option.map_some]

/-! ## Lists of documents -/

theorem valid_arr_map {α : Type} {f : α → Json} {l : List α} (h : ∀ a ∈ l, valid (f a)) :
    valid (.arr (l.map f)) := by
  rw [valid, elemsValid_iff]
  intro j hj
  obtain ⟨a, ha, rfl⟩ := List.mem_map.mp hj
  exact h a ha

theorem strings_injective {l l' : List String} (h : strings l = strings l') : l = l' := by
  have hstr : Function.Injective Json.str := fun _ _ h => str.inj h
  exact List.map_injective_iff.mpr hstr (arr.inj h)

/-- Documents that are read back one by one. -/
theorem mapM_read {α ε : Type} {f : α → Json} {read : Json → Except ε α} {l : List α}
    (h : ∀ a ∈ l, read (f a) = .ok a) : (l.map f).mapM read = .ok l := by
  rw [Checks.mapM_eq_ok, List.forall₂_map_left_iff]
  exact List.forall₂_same.mpr h

/-! ## Texts that agree -/

/-- **A text binds what is read from it**: when a reader needs only the members that were written,
two values with one text read alike. -/
theorem eq_of_write_eq {α β ε : Type} {members : α → List (String × Json)}
    {read : Json → Except ε β} {content : α → β} (hvalid : ∀ a, valid (.obj (members a)))
    (hread : ∀ a doc, Has doc (normalMembers (members a)) → read doc = .ok (content a)) {a b : α}
    (h : write (.obj (members a)) = write (.obj (members b))) : content a = content b := by
  have hnormal := normal_eq_of_write_eq (hvalid a) (hvalid b) h
  have ha := hread a _ (hasExactly_normal (hvalid a).1).has
  have hb := hread b _ (hasExactly_normal (hvalid b).1).has
  rw [hnormal, hb] at ha
  exact (Except.ok.inj ha).symm

end NightRecon.DocumentMembers
