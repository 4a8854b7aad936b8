import NightRecon.SharedCore.Contracts

/-!
# Secret-like keys in written evidence

The filter of `nightrecon_shared_core/contracts.py` searches the value in memory; the file holds
the JSON text of it, and reading the file runs the same filter again.

* `secretFree` — a JSON value without a secret-like key at any depth;
* `tuplesClean` — nothing below a tuple of the value has such a key;
* `secretFree_toJson_iff` — where the filter has accepted a value, the two say the same;
* `EvidenceRecord.fromDict_toDict_of_clean`, `EvidenceRecord.fromDict_toDict_eq_ok` — which accepted
  records read back, and as what.
-/

namespace NightRecon.SharedCore.Contracts

open NightRecon.Lib
open NightRecon.Lib.Checks
open NightRecon.Documents

/-! ## Keys of a JSON value -/

mutual

/-- No object of the value has a secret-like key, at any depth. -/
def secretFree : Json → Bool
  | .arr elems => elemsSecretFree elems
  | .obj members => membersSecretFree members
  | _ => true

def elemsSecretFree : List Json → Bool
  | [] => true
  | j :: elems => secretFree j && elemsSecretFree elems

def membersSecretFree : List (String × Json) → Bool
  | [] => true
  | (key, j) :: members => !isSecretKey key && secretFree j && membersSecretFree members

end

mutual

/-- Nothing that lies below a tuple has a secret-like key. -/
def tuplesClean : Value → Bool
  | .tuple elems => elemsSecretFree (Value.listToJson elems)
  | .list elems => listTuplesClean elems
  | .dict members => membersTuplesClean members
  | .table members => tableTuplesClean members
  | _ => true

def listTuplesClean : List Value → Bool
  | [] => true
  | v :: elems => tuplesClean v && listTuplesClean elems

def membersTuplesClean : List (String × Value) → Bool
  | [] => true
  | (_, v) :: members => tuplesClean v && membersTuplesClean members

def tableTuplesClean : List (Key × Value) → Bool
  | [] => true
  | (_, v) :: members => tuplesClean v && tableTuplesClean members

end

/-! ## The filter against the JSON value -/

mutual

/-- **What the filter accepts is written without secret-like keys exactly when its tuples are
clean.** -/
theorem secretFree_toJson_iff : ∀ (v : Value) (path : String),
    rejectSecretKeys v path = .ok () → (secretFree v.toJson = true ↔ tuplesClean v = true)
  | .none, _, _ | .bool _, _, _ | .int _, _, _ | .float _, _, _ | .str _, _, _ => Iff.rfl
  | .tuple _, _, _ => Iff.rfl
  | .table [], _, _ => Iff.rfl
  | .table (_ :: _), _, h => by simp [rejectSecretKeys] at h
  | .list elems, path, h => by
      rw [Value.toJson, secretFree, tuplesClean]
      exact elemsSecretFree_iff elems path 0 h
  | .dict members, path, h => by
      rw [Value.toJson, secretFree, tuplesClean]
      exact membersSecretFree_iff members path h

theorem elemsSecretFree_iff : ∀ (elems : List Value) (path : String) (index : Nat),
    rejectSecretElems elems path index = .ok () →
      (elemsSecretFree (Value.listToJson elems) = true ↔ listTuplesClean elems = true)
  | [], _, _, _ => Iff.rfl
  | v :: elems, path, index, h => by
      rw [rejectSecretElems, unit_bind_eq_ok] at h
      obtain ⟨hv, hrest⟩ := h
      rw [Value.listToJson, elemsSecretFree, listTuplesClean, Bool.and_eq_true, Bool.and_eq_true]
      exact and_congr (secretFree_toJson_iff v _ hv) (elemsSecretFree_iff elems _ _ hrest)

theorem membersSecretFree_iff : ∀ (members : List (String × Value)) (path : String),
    rejectSecretMembers members path = .ok () →
      (membersSecretFree (Value.membersToJson members) = true ↔
        membersTuplesClean members = true)
  | [], _, _ => Iff.rfl
  | (key, v) :: members, path, h => by
      rw [rejectSecretMembers, raiseIf_bind_eq_ok, unit_bind_eq_ok] at h
      obtain ⟨hkey, hv, hrest⟩ := h
      rw [Bool.not_eq_true] at hkey
      rw [Value.membersToJson, membersSecretFree, membersTuplesClean, hkey, Bool.not_false,
        Bool.true_and, Bool.and_eq_true, Bool.and_eq_true]
      exact and_congr (secretFree_toJson_iff v _ hv) (membersSecretFree_iff members _ hrest)

end

mutual

/-- **What was read is accepted exactly when it has no secret-like key.** -/
theorem rejectSecretKeys_ofJson : ∀ (j : Json) (path : String),
    rejectSecretKeys (Value.ofJson j) path = .ok () ↔ secretFree j = true
  | .null, _ | .bool _, _ | .int _, _ | .float _, _ | .str _, _ => iff_of_true rfl rfl
  | .arr elems, path => by
      rw [Value.ofJson, rejectSecretKeys, secretFree]
      exact rejectSecretElems_ofJson elems path 0
  | .obj members, path => by
      rw [Value.ofJson, rejectSecretKeys, secretFree]
      exact rejectSecretMembers_ofJson members path

theorem rejectSecretElems_ofJson : ∀ (elems : List Json) (path : String) (index : Nat),
    rejectSecretElems (Value.listOfJson elems) path index = .ok () ↔ elemsSecretFree elems = true
  | [], _, _ => iff_of_true rfl rfl
  | j :: elems, path, index => by
      rw [Value.listOfJson, rejectSecretElems, unit_bind_eq_ok, elemsSecretFree, Bool.and_eq_true,
        ← rejectSecretKeys_ofJson j (path ++ "[" ++ toString index ++ "]"),
        ← rejectSecretElems_ofJson elems path (index + 1)]

theorem rejectSecretMembers_ofJson : ∀ (members : List (String × Json)) (path : String),
    rejectSecretMembers (Value.membersOfJson members) path = .ok () ↔
      membersSecretFree members = true
  | [], _ => iff_of_true rfl rfl
  | (key, j) :: members, path => by
      rw [Value.membersOfJson, rejectSecretMembers, raiseIf_bind_eq_ok, unit_bind_eq_ok,
        membersSecretFree, Bool.and_eq_true, Bool.and_eq_true, Bool.not_eq_true', and_assoc,
        ← rejectSecretKeys_ofJson j (path ++ "." ++ key),
        ← rejectSecretMembers_ofJson members path, Bool.not_eq_true]

end

/-! ## Records -/

theorem elemsSecretFree_str (l : List String) : elemsSecretFree (l.map .str) = true := by
  induction l with
  | nil => rfl
  | cons s l ih => rw [List.map_cons, elemsSecretFree, ih]; rfl

namespace EvidenceRecord

/-- The record with other evidence data. -/
def withData (r : EvidenceRecord) (data : List (String × Value))
    (h : (rejectSecretKeys (.dict data) "$").toOption.isSome) : EvidenceRecord :=
  { r with
    data := data
    data_secretFree := h }

/-- Nothing below the tuples of the evidence data has a secret-like key. -/
def TuplesClean (r : EvidenceRecord) : Prop := membersTuplesClean r.data = true

/-- The filter has accepted the data of a record. -/
theorem data_accepted (r : EvidenceRecord) : rejectSecretMembers r.data "$" = .ok () := by
  obtain ⟨u, hu⟩ := Option.isSome_iff_exists.mp r.data_secretFree
  exact eq_ok_of_toOption hu

theorem make_withData (r : EvidenceRecord) {data : List (String × Value)}
    (h : (rejectSecretKeys (.dict data) "$").toOption.isSome) :
    RecordArgs.make { r.args with data := data } = .ok (r.withData data h) :=
  (r.withData data h).make_args

/-- A record is read back from the data that was written. -/
theorem fromDict_toDict_make (r : EvidenceRecord) : fromDict r.toDict =
    RecordArgs.make { r.args with data := Value.membersOfJson (Value.membersToJson r.data) } := by
  have hkeys : ["engagement_id", "evidence_id", "source_night", "evidence_type", "observed_at",
      "provenance", "data", "limitations", "schema_version"].toFinset = {"schema_version",
      "engagement_id", "evidence_id", "source_night", "evidence_type", "observed_at", "provenance",
      "data", "limitations"} := by decide
  have hdata : asData (Value.toJson (.dict r.data)) =
      .ok (Value.membersOfJson (Value.membersToJson r.data)) := rfl
  simp only [fromDict, toDict, keys?, List.map_cons, List.map_nil, hkeys, getItem, getOrRaise,
    ok_bind, require_of, Json.get?, List.find?_cons, String.reduceEq, decide_false, decide_true,
    Option.map_some, equalsOne, asStr, asLimitations_strings, hdata]

/-- **A record whose tuples are clean reads back**, with the data it was written as. -/
theorem fromDict_toDict_of_clean {r : EvidenceRecord} (h : r.TuplesClean) :
    ∃ r', fromDict r.toDict = .ok r' ∧ r'.header = r.header ∧ r'.toDict = r.toDict := by
  have hfree := (membersSecretFree_iff r.data "$" r.data_accepted).mpr h
  have haccepted := (rejectSecretMembers_ofJson _ "$").mpr hfree
  have hsome : (rejectSecretKeys (.dict (Value.membersOfJson (Value.membersToJson r.data)))
      "$").toOption.isSome := by
    rw [rejectSecretKeys, haccepted]
    rfl
  refine ⟨r.withData _ hsome, ?_, rfl, ?_⟩
  · rw [fromDict_toDict_make, make_withData r hsome]
  · simp only [toDict, withData, Value.toJson, Value.membersToJson_membersOfJson]

/-- What a record reads back as when it does. -/
theorem fromDict_toDict_eq_ok {r r' : EvidenceRecord} (h : fromDict r.toDict = .ok r') :
    r.TuplesClean ∧ r'.header = r.header ∧ r'.toDict = r.toDict := by
  have hclean : r.TuplesClean := by
    rw [fromDict_toDict_make] at h
    unfold RecordArgs.make at h
    simp only [bind_eq_ok] at h
    obtain ⟨-, -, -, -, -, -, -, -, -, -, -, -, hsome, -, -⟩ := h
    obtain ⟨u, hu⟩ := Option.isSome_iff_exists.mp hsome.down
    have hfree := (rejectSecretMembers_ofJson _ "$").mp (eq_ok_of_toOption hu)
    exact (membersSecretFree_iff r.data "$" r.data_accepted).mp hfree
  obtain ⟨r'', hr'', hheader, hdict⟩ := fromDict_toDict_of_clean hclean
  rw [h, Except.ok.injEq] at hr''
  exact ⟨hclean, hr'' ▸ hheader, hr'' ▸ hdict⟩

theorem secretFree_toDict (r : EvidenceRecord) :
    secretFree r.toDict = membersSecretFree (Value.membersToJson r.data) := by
  have hkeys : ["engagement_id", "evidence_id", "source_night", "evidence_type", "observed_at",
      "provenance", "data", "limitations", "schema_version"].all (fun k => !isSecretKey k) := by
    decide +kernel
  simp only [List.all_cons, List.all_nil, Bool.and_true, Bool.and_eq_true] at hkeys
  obtain ⟨h₁, h₂, h₃, h₄, h₅, h₆, h₇, h₈, h₉⟩ := hkeys
  simp only [toDict, Value.toJson, Json.strings, secretFree, membersSecretFree, h₁, h₂, h₃, h₄,
    h₅, h₆, h₇, h₈, h₉, elemsSecretFree_str, Bool.true_and, Bool.and_true]

end EvidenceRecord

end NightRecon.SharedCore.Contracts
