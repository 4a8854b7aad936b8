import NightRecon.TaskAutomation.ObjectiveQueue

/-!
# Histories of objectives

What the rows of an objective say once they are authenticated, and what one operation can do to a
record.

* `history`, `Represents` — the events with their records, and rows that are those of a history;
* `readRecord_of`, `writeRecord_of` — reading gives the last record, and writing appends one;
* `Advance` — what an operation makes of a record; `claimRecord_eq_ok`, `updateRecord_eq_ok` and
  `expireRecord_eq_some` are its cases;
* `After`, `Within` — what every operation keeps: the terms of an objective and its bounds.
-/

namespace NightRecon.TaskAutomation

open NightRecon.Lib
open NightRecon.Lib.Checks
open NightRecon.Lib.CodeChain

namespace Queue

/-! ## Rows of a history -/

/-- An event with the record that it left. -/
abbrev Entry := String × ObjectiveRecord

/-- What is authenticated of an entry. -/
def Entry.body (e : Entry) : String × String := (e.1, e.2.text)

/-- The entries that the rows hold. -/
def history (rows : Rows) : List Entry :=
  rows.events.filterMap fun e => (ObjectiveRecord.read e.body.2).toOption.map (e.body.1, ·)

/-- The rows are those of the history of the objective. -/
structure Represents (key : List UInt8) (objectiveId : String) (rows : Rows) (h : List Entry) :
    Prop where
  events : rows.events = links (mac key objectiveId) 0 zeros (h.map Entry.body)
  objective : rows.objective = rows.events.getLast?.map fun e => (e.body.2, e.code)
  versions : h.map (·.2.version) = (List.range h.length).map Int.ofNat
  own : ∀ e ∈ h, e.2.objectiveId = objectiveId
  stored : ∀ e ∈ h, e.2.Stored

section Rows

variable {key : List UInt8} {objectiveId : String} {rows : Rows} {h : List Entry} {e : Entry}

theorem authenticate_eq_ok {index : Int} {previous code : String} {events : List EventRow} :
    authenticate key objectiveId index previous events = .ok code ↔
      Verified (mac key objectiveId) index previous events ∧
        code = (events.getLast?.map Link.code).getD previous := by
  induction events generalizing index previous with
  | nil =>
    simp only [authenticate, pure_eq_ok, Except.ok.injEq, Verified, true_and]
    exact eq_comm
  | cons e events ih =>
    rw [authenticate, require_bind_eq_ok, ih, Verified]
    have hlast : ((e :: events).getLast?.map Link.code).getD previous =
        (events.getLast?.map Link.code).getD e.code := by
      cases events using List.reverseRecOn with
      | nil => rfl
      | append_singleton events e' =>
        rw [← List.cons_append, List.getLast?_concat, List.getLast?_concat]
        rfl
    rw [hlast]
    constructor
    · rintro ⟨⟨hcode, hindex, hprevious⟩, hverified, hlast⟩
      exact ⟨⟨⟨hindex, hprevious, hprevious ▸ hcode⟩, hverified⟩, hlast⟩
    · rintro ⟨⟨⟨hindex, hprevious, hcode⟩, hverified⟩, hlast⟩
      exact ⟨⟨hprevious ▸ hcode, hindex, hprevious⟩, hverified, hlast⟩

theorem represents_empty : Represents key objectiveId emptyRows [] where
  events := rfl
  objective := rfl
  versions := rfl
  own _ he := absurd he List.not_mem_nil
  stored _ he := absurd he List.not_mem_nil

/-- The entries that are held are those of the history. -/
theorem Represents.history_eq (hr : Represents key objectiveId rows h) : history rows = h := by
  have hread : ∀ l : List Entry, (∀ e ∈ l, e.2.Stored) →
      (l.map Entry.body).filterMap (fun body =>
        (ObjectiveRecord.read body.2).toOption.map (body.1, ·)) = l := by
    intro l hl
    induction l with
    | nil => rfl
    | cons e l ih =>
      obtain ⟨he, hl⟩ := List.forall_mem_cons.mp hl
      rw [List.map_cons, List.filterMap_cons, ih hl, Entry.body, ObjectiveRecord.read_text he]
      rfl
  have hbodies : history rows = (rows.events.map Link.body).filterMap fun body =>
      (ObjectiveRecord.read body.2).toOption.map (body.1, ·) := by
    rw [List.filterMap_map]
    rfl
  rw [hbodies, hr.events, map_body_links]
  exact hread h hr.stored

theorem Represents.length_events (hr : Represents key objectiveId rows h) :
    rows.events.length = h.length := by
  rw [hr.events, length_links, List.length_map]

/-- The version of the last record. -/
theorem Represents.version_last (hr : Represents key objectiveId rows (h ++ [e])) :
    e.2.version = h.length := by
  have hversions := hr.versions
  rw [List.map_append, List.length_append, List.length_singleton, List.range_succ,
    List.map_append] at hversions
  have hlast := (List.append_inj' hversions rfl).2
  simpa using hlast

/-- Versions in a history are positions. -/
theorem Represents.version_getElem (hr : Represents key objectiveId rows h) {i : Nat}
    (he : h[i]? = some e) : e.2.version = i := by
  have hversion : (h.map (·.2.version))[i]? = some e.2.version := by
    rw [List.getElem?_map, he, Option.map_some]
  have hi : i < h.length := (List.getElem?_eq_some_iff.mp he).1
  rw [hr.versions, List.getElem?_map, List.getElem?_range hi, Option.map_some] at hversion
  exact (Option.some.inj hversion).symm

/-- An objective without a history is unknown. -/
theorem readRecord_nil (hr : Represents key objectiveId rows []) :
    readRecord key objectiveId rows = .error (rejected "unknown objective") := by
  have hobjective : rows.objective = none := by
    rw [hr.objective, hr.events]
    rfl
  rw [readRecord, hobjective]
  rfl

/-- A history that is too long is not read. -/
theorem readRecord_oversized (hr : Represents key objectiveId rows h) (hlength : 2000 < h.length) :
    readRecord key objectiveId rows = .error (rejected "missing or oversized queue history") := by
  obtain ⟨l, e, rfl⟩ : ∃ l e, h = l ++ [e] :=
    ⟨_, _, (List.dropLast_append_getLast (List.ne_nil_of_length_pos (by omega))).symm⟩
  have hobjective : rows.objective = some (e.2.text,
      mac key objectiveId (0 + (l.map Entry.body).length) e.body
        (lastCode (mac key objectiveId) 0 zeros (l.map Entry.body))) := by
    rw [hr.objective, hr.events, List.map_append, List.map_singleton, links_concat,
      List.getLast?_concat]
    rfl
  have htake : ¬ (rows.events.take 2001 ≠ [] ∧ (rows.events.take 2001).length ≤ 2000) := by
    rintro ⟨-, hle⟩
    rw [List.length_take, hr.length_events] at hle
    omega
  rw [readRecord, hobjective, getOrRaise_some, ok_bind]
  dsimp only
  rw [require, if_neg htake]
  rfl

/-- **Reading gives the last record.** -/
theorem readRecord_of (hr : Represents key objectiveId rows (h ++ [e]))
    (hlength : h.length < 2000) : readRecord key objectiveId rows = .ok e.2 := by
  have hevents := hr.events
  rw [List.map_append, List.map_singleton, links_concat] at hevents
  have htake : rows.events.take 2001 = rows.events := by
    apply List.take_of_length_le
    rw [hr.length_events, List.length_append, List.length_singleton]
    omega
  have hlast : rows.objective = rows.events.getLast?.map fun e => (e.body.2, e.code) := hr.objective
  have hrow : rows.objective = some (e.2.text, mac key objectiveId (0 + (h.map Entry.body).length)
      e.body (lastCode (mac key objectiveId) 0 zeros (h.map Entry.body))) := by
    rw [hlast, hevents, List.getLast?_concat]
    rfl
  have hverified : Verified (mac key objectiveId) 0 zeros rows.events := by
    rw [hr.events]
    exact verified_links _ _ _
  rw [readRecord, hrow, getOrRaise_some, ok_bind]
  dsimp only
  rw [htake]
  refine require_bind_eq_ok.mpr ⟨⟨?_, ?_⟩, ?_⟩
  · rw [hevents]
    exact List.append_ne_nil_of_right_ne_nil _ (List.cons_ne_nil _ _)
  · rw [hr.length_events, List.length_append, List.length_singleton]
    omega
  refine bind_eq_ok.mpr ⟨_, authenticate_eq_ok.mpr ⟨hverified, rfl⟩, ?_⟩
  refine require_bind_eq_ok.mpr ⟨hlast.symm.trans hrow, ?_⟩
  have hstored : e.2.Stored := hr.stored e (List.mem_append_right _ List.mem_cons_self)
  refine bind_eq_ok.mpr ⟨e.2, ObjectiveRecord.read_text hstored, ?_⟩
  refine require_bind_eq_ok.mpr ⟨?_, rfl⟩
  rw [hr.version_last, hr.length_events, List.length_append, List.length_singleton]
  omega

/-- What reading needs. -/
theorem readRecord_eq_ok {record : ObjectiveRecord} (hr : Represents key objectiveId rows h)
    (hread : readRecord key objectiveId rows = .ok record) :
    ∃ l event, h = l ++ [(event, record)] ∧ l.length < 2000 := by
  rcases List.eq_nil_or_concat h with rfl | ⟨l, e, rfl⟩
  · rw [readRecord_nil hr] at hread
    exact absurd hread (by simp)
  · rw [List.concat_eq_append] at hr ⊢
    by_cases hlength : l.length < 2000
    · rw [readRecord_of hr hlength] at hread
      obtain rfl := Except.ok.inj hread
      exact ⟨l, e.1, rfl, hlength⟩
    · rw [readRecord_oversized hr (by simp; omega)] at hread
      exact absurd hread (by simp)

/-- **Writing appends the record.** -/
theorem writeRecord_of {record : ObjectiveRecord} (event : String)
    (hr : Represents key objectiveId rows h) (hversion : record.version = h.length)
    (hown : record.objectiveId = objectiveId) (hstored : record.Stored) :
    ∃ rows', writeRecord key rows record event = .ok rows' ∧ rows'.approval = rows.approval ∧
      Represents key objectiveId rows' (h ++ [(event, record)]) := by
  have hindices : ∀ e ∈ rows.events, e.index < record.version := by
    intro e he
    rw [hr.events] at he
    have hbound := (index_of_mem he).2
    rw [List.length_map] at hbound
    omega
  have hinsert : ∀ (l : List EventRow) (e : EventRow), (∀ e' ∈ l, e'.index < e.index) →
      l.orderedInsert (fun a b => a.index ≤ b.index) e = l ++ [e] := by
    intro l e hl
    induction l with
    | nil => rfl
    | cons e' l ih =>
      obtain ⟨he', hl⟩ := List.forall_mem_cons.mp hl
      rw [List.orderedInsert_cons, if_neg (by omega), ih hl, List.cons_append]
  have hprevious : (rows.objective.map (·.2)).getD zeros =
      lastCode (mac key objectiveId) 0 zeros (h.map Entry.body) := by
    rw [hr.objective, hr.events]
    rcases List.eq_nil_or_concat h with rfl | ⟨l, e, rfl⟩
    · rfl
    · rw [List.concat_eq_append, List.map_append, List.map_singleton, links_concat,
        List.getLast?_concat, lastCode_concat]
      rfl
  have hunique : ¬ ∃ e ∈ rows.events, e.index = record.version := by
    rintro ⟨e, he, heq⟩
    exact absurd (hindices e he) (by omega)
  have hlinks : links (mac key objectiveId) 0 zeros ((h ++ [(event, record)]).map Entry.body) =
      rows.events ++ [⟨record.version, (event, record.text),
        lastCode (mac key objectiveId) 0 zeros (h.map Entry.body),
        mac key objectiveId record.version (event, record.text)
          (lastCode (mac key objectiveId) 0 zeros (h.map Entry.body))⟩] := by
    have hindex : (0 : Int) + (h.map Entry.body).length = record.version := by
      rw [List.length_map, hversion]
      omega
    rw [List.map_append, List.map_singleton, links_concat, hindex, ← hr.events]
    rfl
  generalize lastCode (mac key objectiveId) 0 zeros (h.map Entry.body) = previous
    at hprevious hlinks
  have hwrite : writeRecord key rows record event = .ok ⟨rows.approval,
      some (record.text, mac key objectiveId record.version (event, record.text) previous),
      rows.events ++ [⟨record.version, (event, record.text), previous,
        mac key objectiveId record.version (event, record.text) previous⟩]⟩ := by
    rw [writeRecord, hprevious, raiseIf_of_not hunique, ok_bind]
    dsimp only
    rw [hinsert _ _ hindices, hown]
    rfl
  refine ⟨_, hwrite, rfl, hlinks.symm, ?_, ?_, ?_, ?_⟩
  · rw [List.getLast?_concat]
    rfl
  · rw [List.map_append, hr.versions, List.length_append, List.length_singleton, List.range_succ,
      List.map_append, List.map_singleton, List.map_singleton, hversion]
    rfl
  · intro e he
    rcases List.mem_append.mp he with he | he
    · exact hr.own e he
    · obtain rfl := List.mem_singleton.mp he
      exact hown
  · intro e he
    rcases List.mem_append.mp he with he | he
    · exact hr.stored e he
    · obtain rfl := List.mem_singleton.mp he
      exact hstored

end Rows

/-! ## What an operation makes of a record -/

/-- What an operation makes of a record, and the event it writes. -/
inductive Advance (r : ObjectiveRecord) (event : String) (r' : ObjectiveRecord) : Prop where
  | claimed (worker : String) (now leaseSeconds : Int)
      (h : claimRecord r worker now leaseSeconds = .ok (r', event))
  | updated (fence : Fence) (now : Int) (changes : Changes)
      (h : updateRecord r fence now changes = .ok r')
  | expired (now : Int) (h : expireRecord r now = some r')

/-- What no operation changes. -/
structure Terms where
  objectiveId : String
  approvalDigest : String
  owner : String
  permittedPaths : List String
  acceptanceCriteria : List String
  resourceLimits : Limits
  releasePermissions : ReleasePermissions
  branch : String
  baseSha : String
  startedAt : Int
  deadline : Int

def Terms.of (r : ObjectiveRecord) : Terms :=
  ⟨r.objectiveId, r.approvalDigest, r.owner, r.permittedPaths, r.acceptanceCriteria,
    r.resourceLimits, r.releasePermissions, r.branch, r.baseSha, r.startedAt, r.deadline⟩

/-- A later record of the same objective: the terms are the same, and nothing is refunded. -/
structure After (r r' : ObjectiveRecord) : Prop where
  terms : Terms.of r' = Terms.of r
  version : r.version < r'.version
  batch : r.batch ≤ r'.batch
  attempts : r.attempts ≤ r'.attempts
  tokens : r.reservedTokens ≤ r'.reservedTokens
  cost : r.reservedCostMicrousd ≤ r'.reservedCostMicrousd
  generation : r.leaseGeneration ≤ r'.leaseGeneration

/-- The record keeps its signed limits. -/
structure Within (r : ObjectiveRecord) : Prop where
  batch : 0 ≤ r.batch ∧ r.batch ≤ r.resourceLimits.maxBatches
  repairs : 0 ≤ r.repairs ∧ r.repairs ≤ r.resourceLimits.maxRepairsPerBatch
  attempts : 0 ≤ r.attempts ∧ r.attempts ≤ r.resourceLimits.maxAttempts
  tokens : 0 ≤ r.reservedTokens ∧ r.reservedTokens ≤ r.resourceLimits.maxTokens
  cost : 0 ≤ r.reservedCostMicrousd ∧ r.reservedCostMicrousd ≤ r.resourceLimits.maxCostMicrousd
  lease : r.leaseUntil ≤ r.deadline

section Advances

variable {r r' : ObjectiveRecord} {event : String}

/-- What a claim needs, and its two outcomes. -/
theorem claimRecord_eq_ok {worker : String} {now leaseSeconds : Int}
    (h : claimRecord r worker now leaseSeconds = .ok (r', event)) :
    (¬ r.state.Terminal ∧ now < r.deadline ∧ r.leaseUntil ≤ now) ∧
      ((r.intent ≠ .null ∧ event = "reconciliation_required" ∧ r' = { r with
          state := .blocked
          reason := some "unresolved publication intent; reconcile remote state"
          version := r.version + 1 }) ∨
        (r.intent = .null ∧ event = "claimed" ∧ r' = { r with
          leaseOwner := some worker
          leaseGeneration := r.leaseGeneration + 1
          leaseUntil := min (now + leaseSeconds) r.deadline
          state := if r.state = .pending then .admitted else r.state
          version := r.version + 1 })) := by
  unfold claimRecord at h
  obtain ⟨hterminal, h⟩ := raiseIf_bind_eq_ok.mp h
  obtain ⟨hdeadline, h⟩ := require_bind_eq_ok.mp h
  obtain ⟨hlease, h⟩ := require_bind_eq_ok.mp h
  refine ⟨⟨hterminal, hdeadline, hlease⟩, ?_⟩
  by_cases hintent : r.intent ≠ .null
  · rw [if_pos hintent] at h
    obtain ⟨rfl, rfl⟩ := Prod.mk.inj (Except.ok.inj h)
    exact .inl ⟨hintent, rfl, rfl⟩
  · rw [if_neg hintent] at h
    obtain ⟨rfl, rfl⟩ := Prod.mk.inj (Except.ok.inj h)
    exact .inr ⟨not_not.mp hintent, rfl, rfl⟩

/-- What an update needs, and what it leaves. -/
structure Updated (r : ObjectiveRecord) (fence : Fence) (now : Int) (changes : Changes)
    (r' : ObjectiveRecord) : Prop where
  live : ¬ r.state.Terminal
  owner : r.leaseOwner = some fence.worker
  generation : r.leaseGeneration = fence.generation
  version : r.version = fence.version
  leased : now < r.leaseUntil ∧ now < r.deadline
  counters : r.attempts ≤ r'.attempts ∧ r.reservedTokens ≤ r'.reservedTokens ∧
    r.reservedCostMicrousd ≤ r'.reservedCostMicrousd
  limits : r'.attempts ≤ r.resourceLimits.maxAttempts ∧
    r'.reservedTokens ≤ r.resourceLimits.maxTokens ∧
    r'.reservedCostMicrousd ≤ r.resourceLimits.maxCostMicrousd
  batches : (r.batch ≤ r'.batch ∧ r'.batch ≤ r.resourceLimits.maxBatches) ∧
    0 ≤ r'.repairs ∧ r'.repairs ≤ r.resourceLimits.maxRepairsPerBatch
  edge : ∃ targets, edges r.state = .ok targets ∧ r'.state ∈ targets
  lease : r'.leaseUntil ≤ r.deadline
  record : r' = { changes.on r with
    state := r'.state
    version := r.version + 1 }

theorem updateRecord_eq_ok {fence : Fence} {now : Int} {changes : Changes}
    (h : updateRecord r fence now changes = .ok r') : Updated r fence now changes r' := by
  unfold updateRecord at h
  obtain ⟨hterminal, h⟩ := raiseIf_bind_eq_ok.mp h
  obtain ⟨⟨howner, hgeneration, hversion, hleased⟩, h⟩ := require_bind_eq_ok.mp h
  dsimp only at h
  obtain ⟨hcounters, h⟩ := require_bind_eq_ok.mp h
  obtain ⟨hlimits, h⟩ := require_bind_eq_ok.mp h
  obtain ⟨hbatches, h⟩ := require_bind_eq_ok.mp h
  obtain ⟨state, -, h⟩ := bind_eq_ok.mp h
  obtain ⟨targets, htargets, h⟩ := bind_eq_ok.mp h
  obtain ⟨hmem, h⟩ := require_bind_eq_ok.mp h
  -- a reason is asked for only when the objective ends badly
  have hrest : require ((changes.on r).leaseUntil ≤ r.deadline)
      (rejected "lease exceeds deadline") = .ok () ∧
      r' = { changes.on r with
        state := state
        version := (changes.on r).version + 1 } := by
    split at h
    · obtain ⟨reason, -, h⟩ := bind_eq_ok.mp h
      obtain ⟨hlease, h⟩ := unit_bind_eq_ok.mp h
      exact ⟨hlease, (Except.ok.inj h).symm⟩
    · obtain ⟨hlease, h⟩ := unit_bind_eq_ok.mp h
      exact ⟨hlease, (Except.ok.inj h).symm⟩
  obtain ⟨hlease, rfl⟩ := hrest
  exact ⟨hterminal, howner, hgeneration, hversion, hleased, hcounters, hlimits, hbatches,
    ⟨targets, htargets, hmem⟩, require_eq_ok.mp hlease, rfl⟩

theorem expireRecord_eq_some {now : Int} (h : expireRecord r now = some r') :
    (¬ r.state.Terminal ∧ (r.deadline ≤ now ∨
        r.intent ≠ .null ∧ 0 < r.leaseUntil ∧ r.leaseUntil ≤ now)) ∧
      r' = { r with
        state := .blocked
        reason := some "objective deadline/lease exceeded; reconcile any pending intent"
        version := r.version + 1 } := by
  unfold expireRecord at h
  dsimp only at h
  split at h
  · rename_i hcond
    exact ⟨hcond, (Option.some.inj h).symm⟩
  · exact absurd h (by simp)

theorem expireRecord_terminal {now : Int} (h : r.state.Terminal) : expireRecord r now = none := by
  unfold expireRecord
  dsimp only
  rw [if_neg (fun hcond => hcond.1 h)]

/-- No operation touches a record that is over. -/
theorem Advance.live (h : Advance r event r') : ¬ r.state.Terminal := by
  cases h with
  | claimed worker now leaseSeconds h => exact (claimRecord_eq_ok h).1.1
  | updated fence now changes h => exact (updateRecord_eq_ok h).live
  | expired now h => exact (expireRecord_eq_some h).1.1

/-- Every operation makes one version. -/
theorem Advance.version (h : Advance r event r') : r'.version = r.version + 1 := by
  cases h with
  | claimed worker now leaseSeconds h =>
    obtain ⟨-, ⟨-, -, rfl⟩ | ⟨-, -, rfl⟩⟩ := claimRecord_eq_ok h <;> rfl
  | updated fence now changes h =>
    rw [(updateRecord_eq_ok h).record]
  | expired now h =>
    obtain ⟨-, rfl⟩ := expireRecord_eq_some h
    rfl

theorem Advance.terms (h : Advance r event r') : Terms.of r' = Terms.of r := by
  cases h with
  | claimed worker now leaseSeconds h =>
    obtain ⟨-, ⟨-, -, rfl⟩ | ⟨-, -, rfl⟩⟩ := claimRecord_eq_ok h <;> rfl
  | updated fence now changes h =>
    rw [(updateRecord_eq_ok h).record]
    rfl
  | expired now h =>
    obtain ⟨-, rfl⟩ := expireRecord_eq_some h
    rfl

/-- **Nothing is refunded.** -/
theorem Advance.after (h : Advance r event r') : After r r' := by
  have hversion : r.version < r'.version := by
    rw [h.version]
    omega
  refine ⟨h.terms, hversion, ?_, ?_, ?_, ?_, ?_⟩
  all_goals
    cases h with
    | claimed worker now leaseSeconds h =>
      obtain ⟨-, ⟨-, -, rfl⟩ | ⟨-, -, rfl⟩⟩ := claimRecord_eq_ok h <;> dsimp only <;> omega
    | updated fence now changes h =>
      have hupdated := updateRecord_eq_ok h
      first
      | exact hupdated.batches.1.1
      | exact hupdated.counters.1
      | exact hupdated.counters.2.1
      | exact hupdated.counters.2.2
      | rw [hupdated.record]
        exact le_refl r.leaseGeneration
    | expired now h =>
      obtain ⟨-, rfl⟩ := expireRecord_eq_some h
      exact le_refl _

/-- **Every operation keeps the signed limits.** -/
theorem Advance.within (h : Advance r event r') (hr : Within r) : Within r' := by
  cases h with
  | claimed worker now leaseSeconds h =>
    obtain ⟨-, ⟨-, -, rfl⟩ | ⟨-, -, rfl⟩⟩ := claimRecord_eq_ok h
    · exact ⟨hr.batch, hr.repairs, hr.attempts, hr.tokens, hr.cost, hr.lease⟩
    · exact ⟨hr.batch, hr.repairs, hr.attempts, hr.tokens, hr.cost, min_le_right _ _⟩
  | updated fence now changes h =>
    have hupdated := updateRecord_eq_ok h
    have hlimits : r'.resourceLimits = r.resourceLimits := by rw [hupdated.record]; rfl
    have hdeadline : r'.deadline = r.deadline := by rw [hupdated.record]; rfl
    refine ⟨?_, ?_, ?_, ?_, ?_, ?_⟩
    · rw [hlimits]
      exact ⟨hr.batch.1.trans hupdated.batches.1.1, hupdated.batches.1.2⟩
    · rw [hlimits]
      exact hupdated.batches.2
    · rw [hlimits]
      exact ⟨hr.attempts.1.trans hupdated.counters.1, hupdated.limits.1⟩
    · rw [hlimits]
      exact ⟨hr.tokens.1.trans hupdated.counters.2.1, hupdated.limits.2.1⟩
    · rw [hlimits]
      exact ⟨hr.cost.1.trans hupdated.counters.2.2, hupdated.limits.2.2⟩
    · rw [hdeadline]
      exact hupdated.lease
  | expired now h =>
    obtain ⟨-, rfl⟩ := expireRecord_eq_some h
    exact ⟨hr.batch, hr.repairs, hr.attempts, hr.tokens, hr.cost, hr.lease⟩

theorem Changes.stored_on (changes : Changes) (hr : r.Stored) : (changes.on r).Stored where
  intent := by
    show ObjectiveRecord.AsRead ((changes.intent.map (·.1)).getD r.intent)
    cases changes.intent with
    | none => exact hr.intent
    | some j => exact j.2
  commits := by
    show ∀ j ∈ (changes.commits.map (·.map (·.1))).getD r.commits, ObjectiveRecord.AsRead j
    cases changes.commits with
    | none => exact hr.commits
    | some l =>
      intro j hj
      obtain ⟨j, -, rfl⟩ := List.mem_map.mp hj
      exact j.2
  plan := by
    show ObjectiveRecord.AsRead ((changes.plan.map (·.1)).getD r.plan)
    cases changes.plan with
    | none => exact hr.plan
    | some j => exact j.2
  releaseResult := by
    show ObjectiveRecord.AsRead ((changes.releaseResult.map (·.1)).getD r.releaseResult)
    cases changes.releaseResult with
    | none => exact hr.releaseResult
    | some j => exact j.2

theorem Advance.stored (h : Advance r event r') (hr : r.Stored) : r'.Stored := by
  cases h with
  | claimed worker now leaseSeconds h =>
    obtain ⟨-, ⟨-, -, rfl⟩ | ⟨-, -, rfl⟩⟩ := claimRecord_eq_ok h
    · exact ⟨hr.intent, hr.commits, hr.plan, hr.releaseResult⟩
    · exact ⟨hr.intent, hr.commits, hr.plan, hr.releaseResult⟩
  | updated fence now changes h =>
    rw [(updateRecord_eq_ok h).record]
    have hnew := changes.stored_on hr
    exact ⟨hnew.intent, hnew.commits, hnew.plan, hnew.releaseResult⟩
  | expired now h =>
    obtain ⟨-, rfl⟩ := expireRecord_eq_some h
    exact ⟨hr.intent, hr.commits, hr.plan, hr.releaseResult⟩

/-- A lease is granted only when nothing is pending. -/
theorem Advance.generation (h : Advance r event r') (hintent : r.intent ≠ .null) :
    r'.leaseGeneration = r.leaseGeneration := by
  cases h with
  | claimed worker now leaseSeconds h =>
    obtain ⟨-, ⟨-, -, rfl⟩ | ⟨hnone, -, -⟩⟩ := claimRecord_eq_ok h
    · rfl
    · exact absurd hnone hintent
  | updated fence now changes h =>
    rw [(updateRecord_eq_ok h).record]
    rfl
  | expired now h =>
    obtain ⟨-, rfl⟩ := expireRecord_eq_some h
    rfl

theorem After.trans {r'' : ObjectiveRecord} (h : After r r') (h' : After r' r'') : After r r'' :=
  ⟨h'.terms.trans h.terms, h.version.trans h'.version, h.batch.trans h'.batch,
    h.attempts.trans h'.attempts, h.tokens.trans h'.tokens, h.cost.trans h'.cost,
    h.generation.trans h'.generation⟩

end Advances

/-! ## The first record -/

theorem stored_firstRecord (approval : Approval) (now : Int) :
    (firstRecord approval now).Stored where
  intent := ⟨trivial, rfl⟩
  commits _ hj := absurd hj List.not_mem_nil
  plan := ⟨trivial, rfl⟩
  releaseResult := ⟨trivial, rfl⟩

theorem within_firstRecord {approval : Approval} {now : Int} (hnow : 0 ≤ now) :
    Within (firstRecord approval now) where
  batch := ⟨le_refl _, Int.natCast_nonneg _⟩
  repairs := ⟨le_refl _, Int.natCast_nonneg _⟩
  attempts := ⟨le_refl _, Int.natCast_nonneg _⟩
  tokens := ⟨le_refl _, Int.natCast_nonneg _⟩
  cost := ⟨le_refl _, Int.natCast_nonneg _⟩
  lease := le_min (Int.natCast_nonneg _) (Int.add_nonneg hnow (Int.natCast_nonneg _))

end Queue

end NightRecon.TaskAutomation
