import NightRecon.Lib.Dict
import NightRecon.Lib.FileBacked
import NightRecon.SharedCore.EngagementPolicy

/-!
# The execution policy store

`nightrecon_shared_core/engagement_policy.py` `FileEngagementPolicyStore`.  Every mutation changes
the memory first, writes the file, and takes the change back when the write raises.

* `load`, `payload` — reading and writing the policy file, `load_payload`;
* `setPolicy`, `replacePolicy`, `revoke`, `consumeAction` — the mutations, each given the outcome
  of the one file replacement it may make;
* `Stored` — memory and file agree and every policy is filed under its own identifier, and the
  lemmas `setPolicy_spec`, `revoke_spec`, `consumeAction_spec` on what a mutation can do.
-/

namespace NightRecon.SharedCore.PolicyStore

open NightRecon.Lib
open NightRecon.Lib.Checks
open NightRecon.Lib.FileBacked
open NightRecon.Documents
open NightRecon.SharedCore.EngagementPolicy

/-- The policies by engagement identifier. -/
abbrev Policies := Dict String EngagementExecutionPolicy

/-- Source: `engagement_policy.py` `FileEngagementPolicyStore`. -/
abbrev FileEngagementPolicyStore := FileBacked Policies Json

/-! ## The policy file -/

/-- The document `_persist` writes. -/
def payload (policies : Policies) : Json :=
  .obj [("schema_version", .int 1),
    ("policies", .arr (policies.sortedValues.map EngagementExecutionPolicy.toDict))]

/-- Source: `engagement_policy.py` `FileEngagementPolicyStore._load`. -/
def load (file : Option Json) : Py Policies :=
  match file with
  | none => .ok ∅
  | some document => do
      require (keys? document = some {"schema_version", "policies"})
        (valueError "engagement authorization store schema is not supported")
      require ((document.get? "schema_version").any equalsOne)
        (valueError "engagement authorization store schema version is not supported")
      let items ← asArr (document.get? "policies") "policies must be a list"
      Dict.readInto fromDict (·.engagementId)
        (valueError "engagement authorization store contains a duplicate policy") items

/-- Every policy is filed under its own identifier. -/
def Keyed (policies : Policies) : Prop :=
  ∀ k p, policies.lookup k = some p → p.engagementId = k

/-- **The policy file reads back as the policies it was written from.** -/
theorem load_payload {policies : Policies} (h : Keyed policies) :
    load (some (payload policies)) = .ok policies := by
  have hkeys : keys? (payload policies) = some {"schema_version", "policies"} := by
    simp only [payload, keys?, List.map_cons, List.map_nil]
    decide
  simp only [load]
  rw [require_of hkeys]
  simp only [payload, Json.get?, List.find?_cons, String.reduceEq, decide_true, decide_false,
    Option.map_some, Option.any_some, equalsOne, require_of, ok_bind, asArr]
  exact Dict.readInto_sortedValues (fun _ p _ => fromDict_toDict p) h

theorem keyed_readInto {items : List Json} {duplicate : Exn} {policies : Policies}
    (h : Dict.readInto fromDict (·.engagementId) duplicate items = .ok policies) :
    Keyed policies := by
  refine foldlM_induct (P := fun _ d => Keyed d) ?_ items [] ∅ policies (by simp [Keyed]) h
  intro done item d d' hd hstep
  simp only [bind_eq_ok, raiseIf_eq_ok, pure_eq_ok, Except.ok.injEq] at hstep
  obtain ⟨p, -, -, -, rfl⟩ := hstep
  intro k q hq
  rw [Dict.lookup_insert_eq] at hq
  split at hq
  · rename_i hk
    rw [← Option.some_inj.mp hq]
    exact hk.symm
  · exact hd k q hq

/-- Whatever is loaded is filed under its own identifiers. -/
theorem keyed_load {file : Option Json} {policies : Policies} (h : load file = .ok policies) :
    Keyed policies := by
  unfold load at h
  cases file with
  | none =>
    rw [← Except.ok.inj h]
    simp [Keyed]
  | some document =>
    simp only [bind_eq_ok, require_eq_ok] at h
    obtain ⟨-, -, -, -, items, -, hread⟩ := h
    exact keyed_readInto hread

/-! ## The mutations -/

/-- Write the policies out. -/
def persist (write : Py Unit) : Proc Exn FileEngagementPolicyStore Unit :=
  FileBacked.persist (fun policies => .ok (payload policies)) write

/-- `self._policies[policy.engagement_id] = policy`. -/
def put (policy : EngagementExecutionPolicy) (s : FileEngagementPolicyStore) :
    FileEngagementPolicyStore :=
  s.setMemory (s.memory.insert policy.engagementId policy)

/-- `del self._policies[engagement_id]`. -/
def unset (engagementId : String) (s : FileEngagementPolicyStore) : FileEngagementPolicyStore :=
  s.setMemory (s.memory.erase engagementId)

/-- `self._policies[engagement_id] = previous`. -/
def restore (engagementId : String) (previous : EngagementExecutionPolicy)
    (s : FileEngagementPolicyStore) : FileEngagementPolicyStore :=
  s.setMemory (s.memory.insert engagementId previous)

/-- Source: `engagement_policy.py` `FileEngagementPolicyStore.policy`. -/
def policy (engagementId : String) :
    Proc Exn FileEngagementPolicyStore (Option EngagementExecutionPolicy) := do
  let _ ← Proc.ofExcept (requireText engagementId "engagement_id")
  let s ← Proc.get
  return s.memory.lookup engagementId

/-- Source: `engagement_policy.py` `FileEngagementPolicyStore.set_policy`. -/
def setPolicy (policy : EngagementExecutionPolicy) (write : Py Unit) :
    Proc Exn FileEngagementPolicyStore Unit := do
  let s ← Proc.get
  match s.memory.lookup policy.engagementId with
  | some existing =>
      Proc.ofExcept (raiseIf (existing ≠ policy)
        (valueError ("engagement authorization policy already exists: " ++ policy.engagementId)))
  | none =>
      Proc.modify (put policy)
      Proc.onError (persist write) (unset policy.engagementId)

/-- Source: `engagement_policy.py` `FileEngagementPolicyStore.replace_policy`. -/
def replacePolicy (policy : EngagementExecutionPolicy) (write : Py Unit) :
    Proc Exn FileEngagementPolicyStore Unit := do
  let s ← Proc.get
  let previous ← Proc.ofExcept (getOrRaise (s.memory.lookup policy.engagementId)
    (valueError ("engagement authorization policy not found: " ++ policy.engagementId)))
  Proc.modify (put policy)
  Proc.onError (persist write) (restore policy.engagementId previous)

/-- The policy of an engagement, which has to be there. -/
def requirePolicy (engagementId : String) :
    Proc Exn FileEngagementPolicyStore EngagementExecutionPolicy := do
  let found ← policy engagementId
  Proc.ofExcept (getOrRaise found
    (valueError ("engagement authorization policy not found: " ++ engagementId)))

/-- Source: `engagement_policy.py` `FileEngagementPolicyStore.revoke`. -/
def revoke (engagementId : String) (write : Py Unit) :
    Proc Exn FileEngagementPolicyStore EngagementExecutionPolicy := do
  let policy ← requirePolicy engagementId
  if policy.revoked then return policy
  else
    replacePolicy policy.revoke write
    return policy.revoke

/-- Source: `engagement_policy.py` `FileEngagementPolicyStore.consume_action`. -/
def consumeAction (engagementId : String) (write : Py Unit) :
    Proc Exn FileEngagementPolicyStore EngagementExecutionPolicy := do
  let policy ← requirePolicy engagementId
  if h : policy.maxActions ≤ policy.actionsUsed then
    Proc.ofExcept (.error (valueError "engagement action budget is exhausted"))
  else
    let updated := policy.withUsed (policy.actionsUsed + 1) (Nat.lt_of_not_le h)
    replacePolicy updated write
    return updated

/-! ## What a mutation can do -/

/-- The file reads back as the memory, and every policy is filed under its own identifier. -/
structure Stored (s : FileEngagementPolicyStore) : Prop where
  file : load s.file = .ok s.memory
  keyed : Keyed s.memory

/-- The store a constructor call gives is in step with its file. -/
theorem Stored.of_load {file : Option Json} {policies : Policies} (h : load file = .ok policies) :
    Stored ⟨policies, file⟩ := ⟨h, keyed_load h⟩

theorem Keyed.insert {policies : Policies} (h : Keyed policies)
    (policy : EngagementExecutionPolicy) : Keyed (policies.insert policy.engagementId policy) := by
  intro k p hp
  rw [Dict.lookup_insert_eq] at hp
  split at hp
  · rename_i hk
    rw [← Option.some_inj.mp hp]
    exact hk.symm
  · exact h k p hp

/-- **One guarded write.**  Written with the handler that takes the change back, a changed policy
ends up in memory and file, or the write raises and nothing changes. -/
theorem guardedWrite_spec {s : FileEngagementPolicyStore} (hs : Stored s)
    {policy : EngagementExecutionPolicy} (write : Py Unit)
    {undo : FileEngagementPolicyStore → FileEngagementPolicyStore}
    (hundo : undo (put policy s) = s) {r : Py Unit} {s' : FileEngagementPolicyStore}
    (h : Proc.onError (persist write) undo (put policy s) = (r, s')) :
    (∃ e, r = .error e) ∧ s' = s ∨
      r = .ok () ∧ Stored s' ∧ s'.memory = s.memory.insert policy.engagementId policy := by
  cases hp : persist write (put policy s) with
  | mk r₁ s₁ =>
    cases r₁ with
    | error e =>
      rw [Proc.onError_of_error hp, persist_error hp, hundo] at h
      obtain ⟨rfl, rfl⟩ := Prod.mk.inj h
      exact .inl ⟨⟨e, rfl⟩, rfl⟩
    | ok u =>
      rw [Proc.onError_of_ok hp] at h
      obtain ⟨rfl, rfl⟩ := Prod.mk.inj h
      have hkeyed : Keyed (put policy s).memory := hs.keyed.insert policy
      obtain ⟨-, contents, hcontents, rfl⟩ := persist_ok hp
      rw [← Except.ok.inj hcontents]
      exact .inr ⟨rfl, ⟨load_payload hkeyed, hkeyed⟩, rfl⟩

/-- `set_policy` either changes nothing, and then it returns only when the policy was stored
before, or stores a policy for an engagement that had none. -/
theorem setPolicy_spec {s s' : FileEngagementPolicyStore} (hs : Stored s)
    {policy : EngagementExecutionPolicy} {write r : Py Unit}
    (h : setPolicy policy write s = (r, s')) :
    s' = s ∧ (r = .ok () → s.memory.lookup policy.engagementId = some policy) ∨
      r = .ok () ∧ s.memory.lookup policy.engagementId = none ∧ Stored s' ∧
        s'.memory = s.memory.insert policy.engagementId policy := by
  simp only [setPolicy, Proc.bind_apply, Proc.get_apply] at h
  cases hlookup : s.memory.lookup policy.engagementId with
  | some existing =>
    rw [hlookup] at h
    obtain ⟨hr, rfl⟩ := Prod.mk.inj h
    refine .inl ⟨rfl, fun hok => ?_⟩
    rw [hok, raiseIf_eq_ok, not_not] at hr
    rw [hr]
  | none =>
    rw [hlookup] at h
    have hundo : unset policy.engagementId (put policy s) = s := by
      simp only [unset, put, setMemory_memory, setMemory_setMemory, Dict.erase_insert hlookup,
        setMemory_self]
    rcases guardedWrite_spec hs write hundo h with ⟨⟨e, rfl⟩, rfl⟩ | ⟨hok, hstored, hmemory⟩
    · exact .inl ⟨rfl, fun hok => by cases hok⟩
    · exact .inr ⟨hok, rfl, hstored, hmemory⟩

/-- `replace_policy` of a stored policy either raises and changes nothing, or stores the new one. -/
theorem replacePolicy_spec {s s' : FileEngagementPolicyStore} (hs : Stored s)
    {policy previous : EngagementExecutionPolicy} {write r : Py Unit}
    (hlookup : s.memory.lookup policy.engagementId = some previous)
    (h : replacePolicy policy write s = (r, s')) :
    (∃ e, r = .error e) ∧ s' = s ∨
      r = .ok () ∧ Stored s' ∧ s'.memory = s.memory.insert policy.engagementId policy := by
  simp only [replacePolicy, Proc.bind_apply, Proc.get_apply, Proc.ofExcept_apply, hlookup,
    getOrRaise, Proc.modify_apply] at h
  have hundo : restore policy.engagementId previous (put policy s) = s := by
    simp only [restore, put, setMemory_memory, setMemory_setMemory, Dict.insert_restore hlookup,
      setMemory_self]
  exact guardedWrite_spec hs write hundo h

/-- Looking a policy up changes nothing. -/
theorem requirePolicy_spec {engagementId : String} {s s' : FileEngagementPolicyStore}
    {r : Py EngagementExecutionPolicy} (h : requirePolicy engagementId s = (r, s')) :
    s' = s ∧ ∀ p, r = .ok p → s.memory.lookup engagementId = some p := by
  simp only [requirePolicy, policy, Proc.bind_apply, Proc.ofExcept_apply] at h
  cases hid : requireText engagementId "engagement_id" with
  | error e =>
    simp only [hid, Prod.mk.injEq] at h
    obtain ⟨rfl, rfl⟩ := h
    exact ⟨rfl, fun _ hok => nomatch hok⟩
  | ok t =>
    simp only [hid, Proc.get_apply, Proc.pure_apply, Prod.mk.injEq] at h
    obtain ⟨rfl, rfl⟩ := h
    exact ⟨rfl, fun p hp => getOrRaise_eq_ok.mp hp⟩

/-- A replacement of the policy that was just looked up, under the identifier it was found by. -/
theorem requirePolicy_replace_spec {engagementId : String} {s s' : FileEngagementPolicyStore}
    (hs : Stored s) {p policy : EngagementExecutionPolicy} {write : Py Unit}
    {r : Py EngagementExecutionPolicy} (hlookup : s.memory.lookup engagementId = some p)
    (hid : policy.engagementId = p.engagementId)
    (h : (do replacePolicy policy write; return policy :
      Proc Exn FileEngagementPolicyStore EngagementExecutionPolicy) s = (r, s')) :
    (∃ e, r = .error e) ∧ s' = s ∨
      r = .ok policy ∧ Stored s' ∧ s'.memory = s.memory.insert engagementId policy := by
  have hkey : policy.engagementId = engagementId := hid.trans (hs.keyed _ p hlookup)
  rw [← hkey] at hlookup ⊢
  cases hreplace : replacePolicy policy write s with
  | mk r₁ s₁ =>
    rcases replacePolicy_spec hs hlookup hreplace with ⟨⟨e, rfl⟩, rfl⟩ | ⟨rfl, hstored, hmemory⟩
    · rw [Proc.bind_of_error hreplace] at h
      obtain ⟨rfl, rfl⟩ := Prod.mk.inj h
      exact .inl ⟨⟨e, rfl⟩, rfl⟩
    · rw [Proc.bind_of_ok hreplace] at h
      obtain ⟨rfl, rfl⟩ := Prod.mk.inj h
      exact .inr ⟨rfl, hstored, hmemory⟩

/-- `revoke` either changes nothing, and then it returns only when the policy was revoked before,
or stores the revoked policy. -/
theorem revoke_spec {engagementId : String} {s s' : FileEngagementPolicyStore} (hs : Stored s)
    {write : Py Unit} {r : Py EngagementExecutionPolicy}
    (h : revoke engagementId write s = (r, s')) :
    s' = s ∧ (∀ q, r = .ok q →
        ∃ p, s.memory.lookup engagementId = some p ∧ p.revoked = true) ∨
      ∃ p, s.memory.lookup engagementId = some p ∧ Stored s' ∧
        s'.memory = s.memory.insert engagementId p.revoke := by
  unfold revoke at h
  cases hp : requirePolicy engagementId s with
  | mk r₁ s₁ =>
    obtain ⟨rfl, hfound⟩ := requirePolicy_spec hp
    cases r₁ with
    | error e =>
      rw [Proc.bind_of_error hp, Prod.mk.injEq] at h
      obtain ⟨rfl, rfl⟩ := h
      exact .inl ⟨rfl, fun _ hok => nomatch hok⟩
    | ok p =>
      have hlookup := hfound p rfl
      rw [Proc.bind_of_ok hp] at h
      by_cases hrevoked : p.revoked = true
      · rw [if_pos hrevoked] at h
        obtain ⟨rfl, rfl⟩ := Prod.mk.inj h
        exact .inl ⟨rfl, fun _ _ => ⟨p, hlookup, hrevoked⟩⟩
      · rw [if_neg hrevoked] at h
        rcases requirePolicy_replace_spec hs hlookup p.revoke_engagementId h with
          ⟨⟨e, rfl⟩, rfl⟩ | ⟨-, hstored, hmemory⟩
        · exact .inl ⟨rfl, fun _ hok => nomatch hok⟩
        · exact .inr ⟨p, hlookup, hstored, hmemory⟩

/-- `consume_action` either raises and changes nothing, or stores the policy with one more action
used. -/
theorem consumeAction_spec {engagementId : String} {s s' : FileEngagementPolicyStore}
    (hs : Stored s) {write : Py Unit} {r : Py EngagementExecutionPolicy}
    (h : consumeAction engagementId write s = (r, s')) :
    (∃ e, r = .error e) ∧ s' = s ∨
      ∃ p, ∃ hle : p.actionsUsed + 1 ≤ p.maxActions, s.memory.lookup engagementId = some p ∧
        r = .ok (p.withUsed (p.actionsUsed + 1) hle) ∧ Stored s' ∧
        s'.memory = s.memory.insert engagementId (p.withUsed (p.actionsUsed + 1) hle) := by
  unfold consumeAction at h
  cases hp : requirePolicy engagementId s with
  | mk r₁ s₁ =>
    obtain ⟨rfl, hfound⟩ := requirePolicy_spec hp
    cases r₁ with
    | error e =>
      rw [Proc.bind_of_error hp, Prod.mk.injEq] at h
      obtain ⟨rfl, rfl⟩ := h
      exact .inl ⟨⟨e, rfl⟩, rfl⟩
    | ok p =>
      have hlookup := hfound p rfl
      rw [Proc.bind_of_ok hp] at h
      by_cases hbudget : p.maxActions ≤ p.actionsUsed
      · rw [dif_pos hbudget] at h
        obtain ⟨rfl, rfl⟩ := Prod.mk.inj h
        exact .inl ⟨⟨_, rfl⟩, rfl⟩
      · rw [dif_neg hbudget] at h
        rcases requirePolicy_replace_spec hs hlookup (p.withUsed_engagementId _ _) h with
          herror | ⟨rfl, hstored, hmemory⟩
        · exact .inl herror
        · exact .inr ⟨p, Nat.lt_of_not_le hbudget, hlookup, rfl, hstored, hmemory⟩

end NightRecon.SharedCore.PolicyStore
