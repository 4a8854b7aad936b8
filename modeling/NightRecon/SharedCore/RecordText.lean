import NightRecon.DocumentMembers
import NightRecon.Lib.ValueText
import NightRecon.SharedCore.SecretKeys

/-!
# Evidence records and their texts

What the text of an evidence record says of it, for records whose evidence data is a JSON value.

* `EvidenceRecord.IsJson` — the evidence data is a JSON value;
* `EvidenceRecord.fromDict_of` — such a record reads back from its text as an equal record, which
  is written as the same text;
* `EvidenceRecord.same_of_normal_eq` — two such records with one text are equal.
-/

namespace NightRecon.SharedCore.Contracts

open NightRecon.Lib
open NightRecon.Lib.Checks
open NightRecon.Lib.Json
open NightRecon.Documents
open NightRecon.DocumentMembers

/-! ## The filter and normal forms -/

theorem membersSecretFree_eq_all (l : List (String × Json)) :
    membersSecretFree l = l.all fun m => !isSecretKey m.1 && secretFree m.2 := by
  induction l with
  | nil => rfl
  | cons m l ih => rw [membersSecretFree, ih, List.all_cons]

/-- The filter does not see the order of the members. -/
theorem membersSecretFree_perm {l l' : List (String × Json)} (h : l.Perm l') :
    membersSecretFree l = membersSecretFree l' := by
  rw [membersSecretFree_eq_all, membersSecretFree_eq_all]
  exact h.all_eq

mutual

/-- **A normal form has the keys of its value.** -/
theorem secretFree_normal : ∀ j : Json, secretFree (normal j) = secretFree j
  | .null | .bool _ | .int _ | .float _ | .str _ => rfl
  | .arr elems => by
      rw [normal, secretFree, secretFree, elemsSecretFree_normal elems]
  | .obj members => by
      rw [normal, secretFree, secretFree, membersSecretFree_perm (sortMembers_perm _),
        membersSecretFree_normal members]

theorem elemsSecretFree_normal : ∀ l : List Json, elemsSecretFree (elemsNormal l) = elemsSecretFree l
  | [] => rfl
  | j :: l => by
      rw [elemsNormal, elemsSecretFree, elemsSecretFree, secretFree_normal j,
        elemsSecretFree_normal l]

theorem membersSecretFree_normal : ∀ l : List (String × Json),
    membersSecretFree (membersNormal l) = membersSecretFree l
  | [] => rfl
  | (k, j) :: l => by
      rw [membersNormal, membersSecretFree, membersSecretFree, secretFree_normal j,
        membersSecretFree_normal l]

end

/-- Nothing lies below a tuple of a value without tuples. -/
theorem secretFree_of_tupleFree {data : List (String × Value)}
    (htuples : Value.membersTupleFree data = true)
    (h : rejectSecretMembers data "$" = .ok ()) :
    membersSecretFree (Value.membersToJson data) = true := by
  rw [← Value.membersOfJson_membersToJson data htuples] at h
  exact (rejectSecretMembers_ofJson _ "$").mp h

namespace EvidenceRecord

/-! ## Documents -/

/-- The evidence data of the record is a JSON value. -/
def IsJson (r : EvidenceRecord) : Prop := Value.IsJson (.dict r.data)

/-- The members of a record's document. -/
def members (r : EvidenceRecord) : List (String × Json) :=
  [("engagement_id", .str r.engagementId),
    ("evidence_id", .str r.evidenceId),
    ("source_night", .str r.sourceNight.text),
    ("evidence_type", .str r.evidenceType),
    ("observed_at", .str r.observedAt),
    ("provenance", .str r.provenance),
    ("data", Value.toJson (.dict r.data)),
    ("limitations", .strings r.limitations),
    ("schema_version", .int 1)]

theorem toDict_eq (r : EvidenceRecord) : r.toDict = .obj r.members := rfl

/-- The keys of a record's document. -/
def documentKeys : List String :=
  ["engagement_id", "evidence_id", "source_night", "evidence_type", "observed_at", "provenance",
    "data", "limitations", "schema_version"]

theorem documentKeys_nodup : documentKeys.Nodup := by decide

theorem documentKeys_eq : documentKeys.toFinset = {"schema_version", "engagement_id",
    "evidence_id", "source_night", "evidence_type", "observed_at", "provenance", "data",
    "limitations"} := by decide

theorem valid_toDict {r : EvidenceRecord} (h : r.IsJson) : valid r.toDict := by
  refine ⟨documentKeys_nodup, ?_⟩
  simp only [membersValid, valid, h.2, valid_strings, and_self]

/-- The data that is read back from the text of a record. -/
def rereadData (r : EvidenceRecord) : List (String × Json) :=
  sortMembers (membersNormal (Value.membersToJson r.data))

theorem rereadData_accepted {r : EvidenceRecord} (h : r.IsJson) :
    (rejectSecretKeys (.dict (Value.membersOfJson r.rereadData)) "$").toOption.isSome := by
  have htuples : Value.membersTupleFree r.data = true := h.1
  have hfree := secretFree_of_tupleFree htuples r.data_accepted
  rw [← membersSecretFree_normal, ← membersSecretFree_perm (sortMembers_perm _)] at hfree
  rw [rejectSecretKeys, rereadData, (rejectSecretMembers_ofJson _ "$").mpr hfree]
  rfl

/-- The record that is read back from the text of a record. -/
def reread (r : EvidenceRecord) (h : r.IsJson) : EvidenceRecord :=
  r.withData (Value.membersOfJson r.rereadData) (rereadData_accepted h)

/-- **What is read back is equal to what was written.** -/
theorem reread_same {r : EvidenceRecord} (h : r.IsJson) : (r.reread h).Same r :=
  ⟨rfl, Value.canon_reread h⟩

/-- What is read back is written as the text it was read from. -/
theorem textBy_reread (esc : Char → List Char) {r : EvidenceRecord} (h : r.IsJson) :
    textBy esc (r.reread h).toDict = textBy esc r.toDict := by
  have hdata : Value.toJson (.dict (r.reread h).data) = normal (Value.toJson (.dict r.data)) := by
    rw [reread, withData, Value.toJson, Value.membersToJson_membersOfJson]
    rfl
  apply textBy_obj_congr
  rw [hdata]
  simp only [memberTexts, textBy_normal]
  rfl

/-- **A record is read from any document with its members.** -/
theorem fromDict_of {doc : Json} {r : EvidenceRecord} (h : r.IsJson)
    (hdoc : HasExactly doc (normalMembers r.members)) : fromDict doc = .ok (r.reread h) := by
  have hkeys : keys? doc = some {"schema_version", "engagement_id", "evidence_id", "source_night",
      "evidence_type", "observed_at", "provenance", "data", "limitations"} := by
    rw [hdoc.keys, ← documentKeys_eq]
    rfl
  have hmake := make_withData r (rereadData_accepted h)
  have hhas := hdoc.has
  simp only [normalMembers, members, List.map_cons, List.map_nil, Value.toJson, normal,
    normal_strings, has_cons, has_nil, and_true] at hhas
  obtain ⟨h₁, h₂, h₃, h₄, h₅, h₆, h₇, h₈, h₉⟩ := hhas
  simp only [fromDict, hkeys, getItem, h₁, h₂, h₃, h₄, h₅, h₆, h₇, h₈, h₉, getOrRaise_some, ok_bind,
    require_of, equalsOne, asStr, asLimitations_strings, asData]
  exact hmake

/-- **Two records with one text are equal**, when their data are JSON values. -/
theorem same_of_normal_eq {r r' : EvidenceRecord} (h : r.IsJson) (h' : r'.IsJson)
    (heq : normal r.toDict = normal r'.toDict) : r.Same r' := by
  have hget := get?_normal_eq (valid_toDict h).1 (valid_toDict h').1 heq
  have h₁ := hget "engagement_id"
  have h₂ := hget "evidence_id"
  have h₃ := hget "source_night"
  have h₄ := hget "evidence_type"
  have h₅ := hget "observed_at"
  have h₆ := hget "provenance"
  have h₇ := hget "data"
  have h₈ := hget "limitations"
  simp only [get?, List.find?_cons, String.reduceEq, decide_false, decide_true,
    Option.map_some, Option.some.injEq, normal_strings] at h₁ h₂ h₃ h₄ h₅ h₆ h₇ h₈
  simp only [normal, str.injEq] at h₁ h₂ h₃ h₄ h₅ h₆
  refine ⟨?_, Value.canon_eq_of_normal_eq h h' h₇⟩
  have hnight : r.sourceNight = r'.sourceNight := by
    have hsome := congrArg Night.ofText h₃
    rw [Night.ofText_text, Night.ofText_text] at hsome
    exact Option.some.inj hsome
  simp only [header, h₁, h₂, h₄, h₅, h₆, hnight, strings_injective h₈]

end EvidenceRecord

end NightRecon.SharedCore.Contracts
