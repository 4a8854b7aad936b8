import NightRecon.Lib.AppendOnly
import NightRecon.WhiteEngine.AuditLog
import NightRecon.WhiteEngine.EvidenceCustody.Case

/-!
# The in-memory stores of audit trails and custody cases

`InMemoryAuditStore` of `nightrecon_white_engine/audit_log.py` and `InMemoryCustodyStore` of
`nightrecon_white_engine/evidence_custody.py`: the same two operations on two types of values.

* `InMemoryAuditStore.kind`, `InMemoryCustodyStore.kind` — what each store checks;
* `Continues` — a trail or a case after another one under the same identifier: the events of the
  first begin those of the second;
* `append_only` — over every run of `create` and `advance` calls whatever is stored is continued by
  what is stored later, and a rejected call changes nothing.
-/

namespace NightRecon.WhiteEngine.AppendOnlyStores

open NightRecon.Lib
open NightRecon.Lib.AppendOnly
open NightRecon.Lib.Checks
open NightRecon.Lib.Commitment
open NightRecon.Lib.Json
open NightRecon.Lib.Sha256
open NightRecon.WhiteEngine.AuditLog
open NightRecon.WhiteEngine.EvidenceCustody

/-- `new_events[:len(old_events)] != old_events`. -/
def rewritten (old new : List String) : Prop := new.take old.length ≠ old

instance (old new : List String) : Decidable (rewritten old new) :=
  inferInstanceAs (Decidable (_ ≠ _))

/-! ## The audit store -/

namespace InMemoryAuditStore

/-- The checks of a trail against the one it replaces.
Source: `audit_log.py` `InMemoryAuditStore.advance`. -/
def check (previous trail : AuditTrail) : Py Unit := do
  raiseIf (previous.engagementId ≠ trail.engagementId) (auditError "audit engagement cannot change")
  raiseIf (rewritten (previous.events.map AuditEvent.fingerprint)
      (trail.events.map AuditEvent.fingerprint))
    (auditError "audit history is not an append-only extension")

/-- What the audit store knows of trails. -/
def kind : Kind AuditTrail Exn where
  key := AuditTrail.trailId
  Same := AuditTrail.Same
  decidableSame := fun _ _ => inferInstance
  check := check
  conflict t := auditError ("conflicting audit trail already exists: " ++ t.trailId)
  notFound t := auditError ("audit trail not found: " ++ t.trailId)

/-- Source: `audit_log.py` `InMemoryAuditStore.create`. -/
def create (t : AuditTrail) : Proc Exn (Dict String AuditTrail) Unit := kind.create t

/-- Source: `audit_log.py` `InMemoryAuditStore.advance`. -/
def advance (t : AuditTrail) : Proc Exn (Dict String AuditTrail) Unit := kind.advance t

/-- A trail that continues another one. -/
structure Continues (t t' : AuditTrail) : Prop where
  engagement : t.engagementId = t'.engagementId
  events : t.events <+: t'.events

theorem Continues.refl (t : AuditTrail) : Continues t t := ⟨rfl, List.prefix_refl _⟩

theorem Continues.trans {t t' t'' : AuditTrail} (h : Continues t t') (h' : Continues t' t'') :
    Continues t t'' :=
  ⟨h.engagement.trans h'.engagement, h.events.trans h'.events⟩

/-- **A trail that passes the check continues the stored one**, unless two of the texts hashed
collide. -/
theorem continues_of_check {texts : List (List Char)} (h : NoCollision hexOf texts)
    {t t' : AuditTrail} (ht : t.hashed ⊆ texts) (ht' : t'.hashed ⊆ texts)
    (hcheck : check t t' = .ok ()) : Continues t t' := by
  simp only [check, raiseIf_bind_eq_ok, raiseIf_eq_ok] at hcheck
  simp only [rewritten, not_not] at hcheck
  refine ⟨hcheck.1, prefix_of_map_take hcheck.2 fun e he e' he' hfp => ?_⟩
  apply AuditTrail.event_eq h
  · exact ht (List.mem_cons_of_mem _ (List.mem_map_of_mem he))
  · exact ht' (List.mem_cons_of_mem _ (List.mem_map_of_mem he'))
  · exact hfp

end InMemoryAuditStore

/-! ## The custody store -/

namespace InMemoryCustodyStore

/-- The checks of a case against the one it replaces.
Source: `evidence_custody.py` `InMemoryCustodyStore.advance`. -/
def check (previous next : EvidenceCustodyCase) : Py Unit := do
  raiseIf (previous.engagementId ≠ next.engagementId)
    (custodyError "custody case engagement cannot change")
  raiseIf (previous.dataHandling ≠ next.dataHandling)
    (custodyError "custody data-handling policy cannot change in place")
  raiseIf (∃ i ∈ previous.items,
      ∀ i' ∈ next.items.find? (fun j : CustodiedEvidence => j.evidenceId = i.evidenceId),
        ¬ i'.Same i)
    (custodyError "existing custody evidence cannot be modified or removed")
  raiseIf (rewritten (previous.events.map CustodyEvent.fingerprint)
      (next.events.map CustodyEvent.fingerprint))
    (custodyError "custody history is not an append-only extension")

/-- What the custody store knows of cases. -/
def kind : Kind EvidenceCustodyCase Exn where
  key := EvidenceCustodyCase.caseId
  Same := EvidenceCustodyCase.Same
  decidableSame := fun _ _ => inferInstance
  check := check
  conflict c := custodyError ("conflicting custody case already exists: " ++ c.caseId)
  notFound c := custodyError ("custody case not found: " ++ c.caseId)

/-- Source: `evidence_custody.py` `InMemoryCustodyStore.create`. -/
def create (c : EvidenceCustodyCase) : Proc Exn (Dict String EvidenceCustodyCase) Unit :=
  kind.create c

/-- Source: `evidence_custody.py` `InMemoryCustodyStore.advance`. -/
def advance (c : EvidenceCustodyCase) : Proc Exn (Dict String EvidenceCustodyCase) Unit :=
  kind.advance c

/-- The text of an item's record, hashed for its fingerprint. -/
def recordText (i : CustodiedEvidence) : List Char := textBy asciiEscape i.record.toDict

/-- An item that is stored unchanged: equal, with its record written alike. -/
def Unchanged (i i' : CustodiedEvidence) : Prop := i.Same i' ∧ recordText i = recordText i'

/-- A case that continues another one. -/
structure Continues (c c' : EvidenceCustodyCase) : Prop where
  engagement : c.engagementId = c'.engagementId
  dataHandling : c.dataHandling = c'.dataHandling
  items : ∀ i ∈ c.items, ∃ i' ∈ c'.items, Unchanged i i'
  events : c.events <+: c'.events

theorem Continues.refl (c : EvidenceCustodyCase) : Continues c c :=
  ⟨rfl, rfl, fun i hi => ⟨i, hi, .refl i, rfl⟩, List.prefix_refl _⟩

theorem Continues.trans {c c' c'' : EvidenceCustodyCase} (h : Continues c c')
    (h' : Continues c' c'') : Continues c c'' := by
  refine ⟨h.engagement.trans h'.engagement, h.dataHandling.trans h'.dataHandling, ?_,
    h.events.trans h'.events⟩
  intro i hi
  obtain ⟨i', hi', hsame, htext⟩ := h.items i hi
  obtain ⟨i'', hi'', hsame', htext'⟩ := h'.items i' hi'
  exact ⟨i'', hi'', hsame.trans hsame', htext.trans htext'⟩

/-- The texts hashed for a case, its items and events, and the records of its items. -/
def hashed (c : EvidenceCustodyCase) : List (List Char) := c.hashed ++ c.items.map recordText

theorem recordText_mem {c : EvidenceCustodyCase} {i : CustodiedEvidence} (hi : i ∈ c.items) :
    recordText i ∈ hashed c :=
  List.mem_append_right _ (List.mem_map_of_mem hi)

theorem event_hashed_mem {c : EvidenceCustodyCase} {e : CustodyEvent} (he : e ∈ c.events) :
    e.hashed ∈ hashed c :=
  List.mem_append_left _ (EvidenceCustodyCase.event_hashed_mem he)

/-- **A case that passes the check continues the stored one**, unless two of the texts hashed
collide. -/
theorem continues_of_check {texts : List (List Char)} (h : NoCollision hexOf texts)
    {c c' : EvidenceCustodyCase} (hc : hashed c ⊆ texts) (hc' : hashed c' ⊆ texts)
    (hcheck : check c c' = .ok ()) : Continues c c' := by
  simp only [check, raiseIf_bind_eq_ok, raiseIf_eq_ok] at hcheck
  simp only [rewritten, not_not] at hcheck
  obtain ⟨hengagement, hpolicy, hitems, hevents⟩ := hcheck
  refine ⟨hengagement, hpolicy, ?_, prefix_of_map_take hevents fun e he e' he' hfp => ?_⟩
  · push Not at hitems
    intro i hi
    obtain ⟨i', hfind, hsame⟩ := hitems i hi
    have hi' := List.mem_of_find?_eq_some hfind
    -- the record fingerprint is a field of the item, so equal items have records written alike
    have hfingerprint : i.recordFingerprint = i'.recordFingerprint := by
      have hheader := hsame.symm.2
      simp only [CustodiedEvidence.header, Prod.mk.injEq] at hheader
      exact hheader.2.2.2.2.2
    exact ⟨i', hi', hsame.symm,
      h _ (hc (recordText_mem hi)) _ (hc' (recordText_mem hi')) hfingerprint⟩
  · apply EvidenceCustodyCase.event_eq h
    · exact hc (event_hashed_mem he)
    · exact hc' (event_hashed_mem he')
    · exact hfp

end InMemoryCustodyStore

/-! ## Runs -/

/-- A store whose values are only ever continued, as long as the texts hashed for the values it is
called with are among the given ones. -/
structure OnlyContinued {α : Type} (k : Kind α Exn) (R : α → α → Prop)
    (hashed : α → List (List Char)) (texts : List (List Char)) : Prop where
  continued : ∀ before after : List (Call α), (∀ call ∈ before ++ after, hashed call.value ⊆ texts) →
    Below R (Machine.final (step k) ∅ before) (Machine.final (step k) ∅ (before ++ after))
  rejected : ∀ (d : Dict String α) (call : Call α) (e : Exn), (step k d call).2 = .error e →
    (step k d call).1 = d

/-- **Both stores are append-only.**  Over every run of `create` and `advance` calls with any values,
among whose hashed texts no two collide, what is stored under an identifier at any moment is
continued by what is stored under it later, and a rejected call changes nothing. -/
theorem append_only {texts : List (List Char)} (h : NoCollision hexOf texts) :
    OnlyContinued InMemoryAuditStore.kind InMemoryAuditStore.Continues AuditTrail.hashed texts ∧
      OnlyContinued InMemoryCustodyStore.kind InMemoryCustodyStore.Continues
        InMemoryCustodyStore.hashed texts := by
  refine ⟨⟨?_, fun _ _ _ => step_error⟩, ⟨?_, fun _ _ _ => step_error⟩⟩
  · intro before after hcalls
    exact kept_between (P := fun t : AuditTrail => t.hashed ⊆ texts)
      InMemoryAuditStore.Continues.refl (fun _ _ _ => .trans)
      (fun _ _ ht ht' => InMemoryAuditStore.continues_of_check h ht ht') (holds_empty _) hcalls
  · intro before after hcalls
    exact kept_between (P := fun c => InMemoryCustodyStore.hashed c ⊆ texts)
      InMemoryCustodyStore.Continues.refl (fun _ _ _ => .trans)
      (fun _ _ hc hc' => InMemoryCustodyStore.continues_of_check h hc hc') (holds_empty _) hcalls

/-- A trail that is created stays when it is advanced to itself. -/
theorem append_only_sample : ∃ t : AuditTrail, AuditTrail.sampleTrail = .ok t ∧
    Below InMemoryAuditStore.Continues
      (Machine.final (step InMemoryAuditStore.kind) ∅ [.create t])
      (Machine.final (step InMemoryAuditStore.kind) ∅ ([.create t] ++ [.advance t])) := by
  obtain ⟨t, ht, hnone⟩ := AuditTrail.sampleTrail_noCollision
  refine ⟨t, ht, (append_only hnone).1.continued _ _ ?_⟩
  simp [Call.value]

end NightRecon.WhiteEngine.AppendOnlyStores
