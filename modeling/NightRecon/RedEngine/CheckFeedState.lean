import NightRecon.Documents
import NightRecon.Lib.Datetime
import NightRecon.Lib.Dict
import NightRecon.Lib.JsonRoundTrip
import NightRecon.Lib.Machine
import NightRecon.Lib.Proc
import NightRecon.Lib.Sha256
import NightRecon.Lib.Value
import NightRecon.RedEngine.CheckPackStore

/-!
# The generations of check feeds that were accepted

`nightrecon_red_engine/check_feed_state.py`: for each feed a state file with the generation that
was accepted last.

* `parseGeneratedAt`, `feedDigest` — the instant and the digest of a generation;
* `getState`, `validate`, `accept`, `step` — the calls; replacing a file is given its outcome;
* `Advances` — how the record of a feed may change, and `Records` — which feed a record is of;
* `step_account` — what one acceptance does; `feed_replay_protection` — whole runs.

The files are any at the start of a run, also ones that do not read.
-/

namespace NightRecon.RedEngine.CheckFeedState

open NightRecon.Lib
open NightRecon.Lib.Checks
open NightRecon.Lib.Datetime
open NightRecon.Lib.Machine
open NightRecon.Lib.Text
open NightRecon.Documents
open NightRecon.RedEngine.CheckPackStore (isSafeId)

/-! ## Feeds -/

/-- Source: `check_feed.py` `CheckFeedPackEntry`. -/
structure CheckFeedPackEntry where
  packId : String
  version : String
  url : String
  sha256 : String
  signerKeyId : String
  deriving DecidableEq

/-- Source: `check_feed.py` `CheckPackFeed`. -/
structure CheckPackFeed where
  schemaVersion : Int
  feedId : String
  generatedAt : String
  packs : List CheckFeedPackEntry
  deriving DecidableEq

/-- `asdict(entry)`. -/
def CheckFeedPackEntry.asdict (entry : CheckFeedPackEntry) : Json :=
  .obj [("pack_id", .str entry.packId), ("version", .str entry.version), ("url", .str entry.url),
    ("sha256", .str entry.sha256), ("signer_key_id", .str entry.signerKeyId)]

/-- Source: `check_feed_state.py` `_feed_digest`. -/
def feedDigest (feed : CheckPackFeed) : String :=
  let payload := Json.obj [("schema_version", .int feed.schemaVersion),
    ("feed_id", .str feed.feedId), ("generated_at", .str feed.generatedAt),
    ("packs", .arr (feed.packs.map CheckFeedPackEntry.asdict))]
  Sha256.hexOf payload.write.toList

/-- A trailing `Z` stands for the offset zero. -/
def replaceTrailingZ (text : String) : String :=
  if text.toList.getLast? = some 'Z' then String.ofList (text.toList.dropLast ++ "+00:00".toList)
  else text

/-- The instant a generation time denotes.  Source: `check_feed_state.py` `_parse_generated_at`. -/
def parseGeneratedAt (value : String) : Py Int := do
  raiseIf (strip value = "") (valueError "Managed check feed requires generated_at.")
  let parsed ← getOrRaise (fromisoformat (replaceTrailingZ (strip value)))
    (valueError "Managed check feed generated_at must be ISO 8601.")
  let offset ← getOrRaise parsed.offset
    (valueError "Managed check feed generated_at must be timezone-aware.")
  return parsed.wall - offset

/-- Source: `check_feed_state.py` `_validate_feed_id`. -/
def validateFeedId (feedId : String) : Py Unit :=
  require (isSafeId feedId = true) (valueError ("Unsafe check-feed ID for storage: " ++ feedId))

/-! ## The state file -/

/-- The digest and the address are whatever the file holds.
Source: `check_feed_state.py` `AcceptedCheckFeedState`. -/
structure AcceptedCheckFeedState where
  feedId : String
  generatedAt : String
  manifestSha256 : Json
  sourceUrl : Json

/-- The texts of the state files, by feed identifier. -/
abbrev Files := Dict String String

/-- The language's `==` on values read from JSON. -/
def sameValue (a b : Json) : Prop := (Value.ofJson a).canon = (Value.ofJson b).canon

instance (a b : Json) : Decidable (sameValue a b) := inferInstanceAs (Decidable (_ = _))

/-- The equality of two records. -/
def AcceptedCheckFeedState.same (r r' : AcceptedCheckFeedState) : Prop :=
  r.feedId = r'.feedId ∧ r.generatedAt = r'.generatedAt ∧
    sameValue r.manifestSha256 r'.manifestSha256 ∧ sameValue r.sourceUrl r'.sourceUrl

instance (r r' : AcceptedCheckFeedState) : Decidable (r.same r') :=
  inferInstanceAs (Decidable (_ ∧ _))

def invalidState : Exn := valueError "Installed check-feed state is invalid."

/-- A generation time that has to be a text. -/
def generatedAtText : Json → Py String
  | .str s => .ok s
  | _ => .error (valueError "Managed check feed requires generated_at.")

/-- The record in a state file. -/
def readRecord (feedId text : String) : Py AcceptedCheckFeedState := do
  let data ← getOrRaise (Json.loads text) invalidState
  require (keys? data).isSome invalidState
  require (∃ v ∈ data.get? "schema_version", sameValue v (.int 1)) invalidState
  let feed ← getOrRaise (data.get? "feed_id") invalidState
  let generatedAt ← getOrRaise (data.get? "generated_at") invalidState
  let manifestSha256 ← getOrRaise (data.get? "manifest_sha256") invalidState
  let sourceUrl ← getOrRaise (data.get? "source_url") invalidState
  require (sameValue feed (.str feedId)) invalidState
  let generatedAt ← generatedAtText generatedAt
  let _ ← parseGeneratedAt generatedAt
  return ⟨feedId, generatedAt, manifestSha256, sourceUrl⟩

/-- Source: `check_feed_state.py` `get`. -/
def getState (feedId : String) (files : Files) : Py (Option AcceptedCheckFeedState) := do
  validateFeedId feedId
  match files.lookup feedId with
  | none => return none
  | some text => return some (← readRecord feedId text)

/-- The document of a state file. -/
def stateDocument (record : AcceptedCheckFeedState) : Json :=
  .obj [("schema_version", .int 1), ("feed_id", .str record.feedId),
    ("generated_at", .str record.generatedAt), ("manifest_sha256", record.manifestSha256),
    ("source_url", record.sourceUrl)]

/-! ## The calls -/

/-- The comparison with the generation on file, if there is one: the record to keep when it is this
very generation.  Source: the body of `if existing is not None` in `validate`. -/
def compareGeneration (incoming : Int) (digest : String) :
    Option AcceptedCheckFeedState → Py (Option AcceptedCheckFeedState)
  | none => .ok none
  | some existing => do
      let existingTime ← parseGeneratedAt existing.generatedAt
      raiseIf (incoming < existingTime)
        (valueError ("Signed check-feed generation is older and would " ++
          "replay previously accepted state."))
      raiseIf (incoming = existingTime ∧ ¬ sameValue (.str digest) existing.manifestSha256)
        (valueError ("Signed check feed has the same generation timestamp " ++
          "but a different signed payload."))
      if incoming = existingTime ∧ sameValue (.str digest) existing.manifestSha256 then
        return some existing
      else return none

/-- Source: `check_feed_state.py` `validate`. -/
def validate (feed : CheckPackFeed) (sourceUrl : String) (files : Files) :
    Py AcceptedCheckFeedState := do
  validateFeedId feed.feedId
  let incomingTime ← parseGeneratedAt feed.generatedAt
  let digest := feedDigest feed
  let existing ← getState feed.feedId files
  match ← compareGeneration incomingTime digest existing with
  | some existing => return existing
  | none => return ⟨feed.feedId, feed.generatedAt, .str digest, .str sourceUrl⟩

/-- Replace a state file; `write` is the outcome.  Source: `check_feed_state.py` `_write`. -/
def writeState (record : AcceptedCheckFeedState) (write : Py Unit) : Proc Exn Files Unit := do
  Proc.ofExcept write
  Proc.modify fun files => files.insert record.feedId (Json.dumps (stateDocument record))

/-- Source: `check_feed_state.py` `accept`. -/
def accept (feed : CheckPackFeed) (sourceUrl : String) (write : Py Unit) :
    Proc Exn Files AcceptedCheckFeedState := do
  let files ← Proc.get
  let record ← Proc.ofExcept (validate feed sourceUrl files)
  let existing ← Proc.ofExcept (getState feed.feedId files)
  if ∃ e ∈ existing, e.same record then return record
  else
    writeState record write
    return record

/-- An acceptance, with the outcome of the write it may make. -/
structure Acceptance where
  feed : CheckPackFeed
  sourceUrl : String
  write : Py Unit

/-- One acceptance. -/
def step (files : Files) (call : Acceptance) : Files × Py AcceptedCheckFeedState :=
  ((accept call.feed call.sourceUrl call.write files).2,
    (accept call.feed call.sourceUrl call.write files).1)

/-! ## Reading and writing a state file -/

@[simp] theorem sameValue_self (a : Json) : sameValue a a := rfl

theorem sameValue_str {s : String} {j : Json} : sameValue (.str s) j ↔ j = .str s := by
  constructor
  · intro h
    cases j with
    | str s' => exact congrArg Json.str (Atom.str.inj (Canon.atom.inj h)).symm
    | float literal =>
      cases hvalue : floatValue literal <;>
        simp [sameValue, Value.ofJson, Value.canon, hvalue] at h
    | _ => simp [sameValue, Value.ofJson, Value.canon] at h
  · rintro rfl
    exact sameValue_self _

/-- A new record has texts for the digest and the address. -/
def newRecord (feed : CheckPackFeed) (sourceUrl : String) : AcceptedCheckFeedState :=
  ⟨feed.feedId, feed.generatedAt, .str (feedDigest feed), .str sourceUrl⟩

/-- The members of the document of a new record. -/
def newMembers (feed : CheckPackFeed) (sourceUrl : String) : List (String × Json) :=
  [("schema_version", .int 1), ("feed_id", .str feed.feedId),
    ("generated_at", .str feed.generatedAt), ("manifest_sha256", .str (feedDigest feed)),
    ("source_url", .str sourceUrl)]

theorem newMembers_keys (feed : CheckPackFeed) (sourceUrl : String) :
    ((newMembers feed sourceUrl).map (·.1)).Nodup := by
  show ["schema_version", "feed_id", "generated_at", "manifest_sha256", "source_url"].Nodup
  decide

theorem loads_newRecord (feed : CheckPackFeed) (sourceUrl : String) :
    Json.loads (Json.dumps (stateDocument (newRecord feed sourceUrl))) =
      some (Json.normal (.obj (newMembers feed sourceUrl))) := by
  refine Json.loads_dumps ⟨newMembers_keys feed sourceUrl, ?_⟩
  exact ⟨trivial, trivial, trivial, trivial, trivial, trivial⟩

/-- **A record that was written reads as it was**, when its time is one. -/
theorem readRecord_written {feed : CheckPackFeed} {sourceUrl : String} {t : Int}
    (ht : parseGeneratedAt feed.generatedAt = .ok t) :
    readRecord feed.feedId (Json.dumps (stateDocument (newRecord feed sourceUrl))) =
      .ok (newRecord feed sourceUrl) := by
  have hget := Json.get?_normal (newMembers_keys feed sourceUrl)
  have hkeys : (keys? (Json.normal (.obj (newMembers feed sourceUrl)))).isSome = true := by
    obtain ⟨sorted, hsorted, -⟩ := Json.keys_normal (newMembers feed sourceUrl)
    rw [hsorted]
    rfl
  simp only [readRecord, loads_newRecord, getOrRaise_some, ok_bind, require_of hkeys,
    hget]
  show (do
    require (sameValue (.str feed.feedId) (.str feed.feedId)) invalidState
    let _ ← parseGeneratedAt feed.generatedAt
    return newRecord feed sourceUrl) = .ok (newRecord feed sourceUrl)
  rw [require_of (sameValue_self _), ht]
  rfl

/-- What is read for a feed depends on its file alone. -/
theorem getState_congr {feedId : String} {files files' : Files}
    (h : files'.lookup feedId = files.lookup feedId) :
    getState feedId files' = getState feedId files := by
  rw [getState, getState, h]

/-- The time of a record that was read is one. -/
theorem readRecord_time {feedId text : String} {record : AcceptedCheckFeedState}
    (h : readRecord feedId text = .ok record) :
    record.feedId = feedId ∧ ∃ t, parseGeneratedAt record.generatedAt = .ok t := by
  simp only [readRecord, bind_eq_ok, pure_eq_ok, Except.ok.injEq] at h
  obtain ⟨data, -, _, -, _, -, feed, -, _, -, _, -, _, -, _, -, generatedAt, -, t, ht, rfl⟩ := h
  exact ⟨rfl, t, ht⟩

theorem getState_eq_some {feedId : String} {files : Files} {record : AcceptedCheckFeedState}
    (h : getState feedId files = .ok (some record)) :
    validateFeedId feedId = .ok () ∧ record.feedId = feedId ∧
      ∃ t, parseGeneratedAt record.generatedAt = .ok t := by
  rw [getState, unit_bind_eq_ok] at h
  obtain ⟨hid, h⟩ := h
  refine ⟨hid, ?_⟩
  split at h
  · cases h
  · next text htext =>
    simp only [bind_eq_ok, pure_eq_ok, Except.ok.injEq, Option.some.injEq] at h
    obtain ⟨r, hread, rfl⟩ := h
    exact readRecord_time hread

theorem getState_written {feed : CheckPackFeed} {sourceUrl : String} {t : Int} {files : Files}
    (hid : validateFeedId feed.feedId = .ok ())
    (ht : parseGeneratedAt feed.generatedAt = .ok t) :
    getState feed.feedId
      (files.insert feed.feedId (Json.dumps (stateDocument (newRecord feed sourceUrl)))) =
        .ok (some (newRecord feed sourceUrl)) := by
  rw [getState, hid, ok_bind, Dict.lookup_insert_eq, if_pos rfl]
  dsimp only
  rw [readRecord_written ht]
  rfl

/-! ## What an acceptance does -/

/-- The record is of the generation of a feed: the same instant and the same digest. -/
structure Records (feed : CheckPackFeed) (record : AcceptedCheckFeedState) (t : Int) : Prop where
  feedTime : parseGeneratedAt feed.generatedAt = .ok t
  recordTime : parseGeneratedAt record.generatedAt = .ok t
  digest : record.manifestSha256 = .str (feedDigest feed)

/-- How the record of a feed may change: to a later instant, or not at all. -/
def Advances (r r' : AcceptedCheckFeedState) : Prop :=
  ∃ t t', parseGeneratedAt r.generatedAt = .ok t ∧ parseGeneratedAt r'.generatedAt = .ok t' ∧
    t ≤ t' ∧ (t = t' → r' = r)

theorem Advances.trans {r r' r'' : AcceptedCheckFeedState} (h : Advances r r')
    (h' : Advances r' r'') : Advances r r'' := by
  obtain ⟨t, t₁, ht, ht₁, hle, hsame⟩ := h
  obtain ⟨t₁', t₂, ht₁', ht₂, hle', hsame'⟩ := h'
  obtain rfl : t₁ = t₁' := Except.ok.inj (ht₁.symm.trans ht₁')
  refine ⟨t, t₂, ht, ht₂, hle.trans hle', ?_⟩
  rintro rfl
  obtain rfl : t = t₁ := le_antisymm hle hle'
  rw [hsame' rfl, hsame rfl]

theorem advances_self {r : AcceptedCheckFeedState} {t : Int}
    (ht : parseGeneratedAt r.generatedAt = .ok t) : Advances r r :=
  ⟨t, t, ht, ht, le_refl t, fun _ => rfl⟩

/-- The comparison keeps the record on file, or it is older or there is none. -/
theorem compareGeneration_eq_ok {t : Int} {digest : String}
    {existing kept : Option AcceptedCheckFeedState}
    (h : compareGeneration t digest existing = .ok kept) :
    (kept = none ∧ ∀ r ∈ existing, ∃ t₀, parseGeneratedAt r.generatedAt = .ok t₀ ∧ t₀ < t) ∨
      ∃ r, existing = some r ∧ kept = some r ∧ parseGeneratedAt r.generatedAt = .ok t ∧
        r.manifestSha256 = .str digest := by
  cases existing with
  | none =>
    obtain rfl := Except.ok.inj h
    exact .inl ⟨rfl, nofun⟩
  | some r =>
    simp only [compareGeneration, bind_eq_ok, raiseIf_eq_ok] at h
    obtain ⟨t₀, ht₀, _, hold, _, hother, h⟩ := h
    by_cases hsame : t = t₀ ∧ sameValue (.str digest) r.manifestSha256
    · rw [if_pos hsame] at h
      obtain rfl := Except.ok.inj h
      exact .inr ⟨r, rfl, rfl, by rw [hsame.1, ht₀], sameValue_str.mp hsame.2⟩
    · rw [if_neg hsame] at h
      obtain rfl := Except.ok.inj h
      have hne : t ≠ t₀ := fun heq => hother ⟨heq, fun hd => hsame ⟨heq, hd⟩⟩
      refine .inl ⟨rfl, fun r' hr' => ?_⟩
      obtain rfl := Option.some.inj hr'
      exact ⟨t₀, ht₀, lt_of_le_of_ne (not_lt.mp hold) hne.symm⟩

/-- What one acceptance may do: be refused and leave every file alone; find its generation on file
and leave every file alone; or write a record that is newer than the one on file. -/
inductive Account (call : Acceptance) (files files' : Files) :
    Py AcceptedCheckFeedState → Prop where
  | refused (e : Exn) (unchanged : files' = files) : Account call files files' (.error e)
  | known (record : AcceptedCheckFeedState) (t : Int) (records : Records call.feed record t)
      (onFile : getState call.feed.feedId files = .ok (some record)) (unchanged : files' = files) :
      Account call files files' (.ok record)
  | written (t : Int) (records : Records call.feed (newRecord call.feed call.sourceUrl) t)
      (newer : ∃ existing, getState call.feed.feedId files = .ok existing ∧
        ∀ r ∈ existing, ∃ t₀, parseGeneratedAt r.generatedAt = .ok t₀ ∧ t₀ < t)
      (onFile : getState call.feed.feedId files' =
        .ok (some (newRecord call.feed call.sourceUrl)))
      (elsewhere : ∀ id, id ≠ call.feed.feedId → files'.lookup id = files.lookup id) :
      Account call files files' (.ok (newRecord call.feed call.sourceUrl))

/-- **What one acceptance does.** -/
theorem step_account (files : Files) (call : Acceptance) :
    Account call files (step files call).1 (step files call).2 := by
  cases hrun : accept call.feed call.sourceUrl call.write files with
  | mk result files' =>
    simp only [step, hrun]
    unfold accept at hrun
    rw [Proc.bind_apply, Proc.get_apply] at hrun
    rcases Proc.ofExcept_cases hrun with ⟨e, rfl, rfl⟩ | ⟨record, hvalidate, hrun⟩
    · exact .refused e rfl
    simp only [validate, unit_bind_eq_ok] at hvalidate
    obtain ⟨hid, hvalidate⟩ := hvalidate
    simp only [bind_eq_ok] at hvalidate
    obtain ⟨t, ht, existing, hexisting, kept, hkept, hvalidate⟩ := hvalidate
    rcases Proc.ofExcept_cases hrun with ⟨e, rfl, rfl⟩ | ⟨existing', hagain, hrun⟩
    · exact .refused e rfl
    obtain rfl : existing = existing' := Except.ok.inj (hexisting.symm.trans hagain)
    rcases compareGeneration_eq_ok hkept with ⟨rfl, hnewer⟩ | ⟨r, rfl, rfl, htime, hdigest⟩
    · have hrecord : record = newRecord call.feed call.sourceUrl :=
        (Except.ok.inj hvalidate).symm
      subst hrecord
      have hdiffers : ¬ ∃ e ∈ existing, e.same (newRecord call.feed call.sourceUrl) := by
        rintro ⟨r, hr, hsame⟩
        obtain ⟨t₀, ht₀, hlt⟩ := hnewer r hr
        have hsametime : r.generatedAt = call.feed.generatedAt := hsame.2.1
        rw [hsametime, ht] at ht₀
        exact absurd hlt (Except.ok.inj ht₀ ▸ lt_irrefl _)
      rw [if_neg hdiffers] at hrun
      rcases Proc.bind_cases hrun with ⟨e, hwrite, rfl⟩ | ⟨u, files₁, hwrite, hreturn⟩
      · rcases Proc.ofExcept_cases hwrite with ⟨e', -, rfl⟩ | ⟨-, -, hmodify⟩
        · exact .refused e rfl
        · cases (Prod.mk.inj hmodify).1
      · obtain ⟨rfl, rfl⟩ := Prod.mk.inj hreturn
        rcases Proc.ofExcept_cases hwrite with ⟨e', herror, -⟩ | ⟨-, -, hmodify⟩
        · cases herror
        · obtain ⟨-, rfl⟩ := Prod.mk.inj hmodify
          refine .written t ⟨ht, ht, rfl⟩ ⟨existing, hexisting, hnewer⟩ ?_ ?_
          · exact getState_written hid ht
          · intro id hne
            exact Finmap.lookup_insert_of_ne _ hne
    · obtain rfl := Except.ok.inj hvalidate
      have hsame : ∃ e ∈ some r, e.same r :=
        ⟨r, rfl, rfl, rfl, sameValue_self _, sameValue_self _⟩
      rw [if_pos hsame] at hrun
      obtain ⟨rfl, rfl⟩ := Prod.mk.inj hrun
      exact .known r t ⟨ht, htime, hdigest⟩ hexisting rfl

/-! ## Runs -/

/-- The record on file after an acceptance is of the accepted feed. -/
theorem Account.onFile {call : Acceptance} {files files' : Files} {record : AcceptedCheckFeedState}
    (h : Account call files files' (.ok record)) :
    getState call.feed.feedId files' = .ok (some record) ∧ ∃ t, Records call.feed record t := by
  cases h with
  | known _ t records onFile unchanged =>
    rw [unchanged]
    exact ⟨onFile, t, records⟩
  | written t records newer onFile elsewhere => exact ⟨onFile, t, records⟩

/-- **One acceptance keeps every record or replaces it by a later one.** -/
theorem Account.advances {call : Acceptance} {files files' : Files}
    {result : Py AcceptedCheckFeedState} (h : Account call files files' result) {id : String}
    {r : AcceptedCheckFeedState} (hr : getState id files = .ok (some r)) :
    ∃ r', getState id files' = .ok (some r') ∧ Advances r r' := by
  obtain ⟨-, -, t, ht⟩ := getState_eq_some hr
  cases h with
  | refused e unchanged =>
    rw [unchanged]
    exact ⟨r, hr, advances_self ht⟩
  | known record t' records onFile unchanged =>
    rw [unchanged]
    exact ⟨r, hr, advances_self ht⟩
  | written t' records newer onFile elsewhere =>
    by_cases hid : id = call.feed.feedId
    · subst hid
      obtain ⟨existing, hexisting, hnewer⟩ := newer
      obtain rfl : some r = existing := Except.ok.inj (hr.symm.trans hexisting)
      obtain ⟨t₀, ht₀, hlt⟩ := hnewer r rfl
      exact ⟨_, onFile, t₀, t', ht₀, records.recordTime, hlt.le, fun heq => absurd heq hlt.ne⟩
    · rw [getState_congr (elsewhere id hid)]
      exact ⟨r, hr, advances_self ht⟩

/-- A record on file stays, or gives way to a later one, over every run. -/
theorem advances_run {files : Files} {id : String} {r : AcceptedCheckFeedState}
    (hr : getState id files = .ok (some r)) (calls : List Acceptance) :
    ∃ r', getState id (final step files calls) = .ok (some r') ∧ Advances r r' := by
  induction calls using List.reverseRecOn with
  | nil =>
    obtain ⟨-, -, t, ht⟩ := getState_eq_some hr
    exact ⟨r, hr, advances_self ht⟩
  | append_singleton calls call ih =>
    obtain ⟨r₁, hr₁, hadvances⟩ := ih
    rw [final_concat]
    obtain ⟨r₂, hr₂, hadvances'⟩ := (step_account _ call).advances hr₁
    exact ⟨r₂, hr₂, hadvances.trans hadvances'⟩

/-- The second of two feeds is of a later instant, or of the same one and has the same digest. -/
def Follows (feed feed' : CheckPackFeed) : Prop :=
  ∃ t t', parseGeneratedAt feed.generatedAt = .ok t ∧
    parseGeneratedAt feed'.generatedAt = .ok t' ∧ t ≤ t' ∧
    (t = t' → feedDigest feed = feedDigest feed')

theorem follows_of_advances {feed feed' : CheckPackFeed} {r r' : AcceptedCheckFeedState}
    {t t' : Int}
    (hr : Records feed r t) (hr' : Records feed' r' t') (h : Advances r r') :
    Follows feed feed' := by
  obtain ⟨t₁, t₁', ht₁, ht₁', hle, hsame⟩ := h
  obtain rfl : t = t₁ := Except.ok.inj (hr.recordTime.symm.trans ht₁)
  obtain rfl : t' = t₁' := Except.ok.inj (hr'.recordTime.symm.trans ht₁')
  refine ⟨t, t', hr.feedTime, hr'.feedTime, hle, fun heq => ?_⟩
  have hdigest : Json.str (feedDigest feed) = .str (feedDigest feed') := by
    rw [← hr.digest, ← hr'.digest, hsame heq]
  exact Json.str.inj hdigest

/-- Two entries of a trace that were accepted for one feed are in order. -/
def InOrder (e e' : Acceptance × Py AcceptedCheckFeedState) : Prop :=
  ∀ r r', e.1.feed.feedId = e'.1.feed.feedId → e.2 = .ok r → e'.2 = .ok r' →
    Follows e.1.feed e'.1.feed

/-- What is accepted of a feed after a record was on file follows the record's feed. -/
theorem follows_run {files : Files} {feed : CheckPackFeed} {r : AcceptedCheckFeedState} {t : Int}
    (hr : getState feed.feedId files = .ok (some r)) (hrecords : Records feed r t)
    {calls : List Acceptance} {e : Acceptance × Py AcceptedCheckFeedState}
    {r' : AcceptedCheckFeedState} (he : e ∈ trace step files calls)
    (hid : feed.feedId = e.1.feed.feedId) (hok : e.2 = .ok r') : Follows feed e.1.feed := by
  obtain ⟨pre, post, hsplit⟩ := List.append_of_mem he
  obtain ⟨before, after, -, -, hanswer, -⟩ := trace_split_at hsplit
  obtain ⟨r₁, hr₁, hadvances⟩ := advances_run hr before
  obtain ⟨r₂, hr₂, hadvances'⟩ := (step_account (final step files before) e.1).advances hr₁
  have haccount := step_account (final step files before) e.1
  rw [← hanswer, hok] at haccount
  obtain ⟨hr₃, t', hrecords'⟩ := haccount.onFile
  rw [← hid] at hr₃
  obtain rfl : r₂ = r' := Option.some.inj (Except.ok.inj (hr₂.symm.trans hr₃))
  exact follows_of_advances hrecords hrecords' (hadvances.trans hadvances')

/-- Accepted generations of a feed come in the order of their instants. -/
theorem pairwise_inOrder (files : Files) (calls : List Acceptance) :
    (trace step files calls).Pairwise InOrder := by
  induction calls generalizing files with
  | nil => exact List.Pairwise.nil
  | cons call calls ih =>
    rw [trace_cons, List.pairwise_cons]
    refine ⟨?_, ih _⟩
    intro e he r r' hid hok hok'
    have haccount := step_account files call
    rw [show (step files call).2 = .ok r from hok] at haccount
    obtain ⟨hr, t, hrecords⟩ := haccount.onFile
    exact follows_run hr hrecords he hid hok'

/-- A generation whose record is on file is accepted again, and nothing is written. -/
theorem step_again {files : Files} {call : Acceptance} {r : AcceptedCheckFeedState} {t : Int}
    (hr : getState call.feed.feedId files = .ok (some r)) (hrecords : Records call.feed r t) :
    step files call = (files, .ok r) := by
  obtain ⟨hid, -, -⟩ := getState_eq_some hr
  have hcompare : compareGeneration t (feedDigest call.feed) (some r) = .ok (some r) := by
    have hsame : sameValue (.str (feedDigest call.feed)) r.manifestSha256 :=
      sameValue_str.mpr hrecords.digest
    have hdiffers : ¬ (t = t ∧ ¬ sameValue (.str (feedDigest call.feed)) r.manifestSha256) :=
      fun h => h.2 hsame
    rw [compareGeneration, hrecords.recordTime, ok_bind, raiseIf_of_not (lt_irrefl t), ok_bind,
      raiseIf_of_not hdiffers, ok_bind, if_pos ⟨rfl, hsame⟩]
    rfl
  have hvalidate : validate call.feed call.sourceUrl files = .ok r := by
    rw [validate, hid, ok_bind, hrecords.feedTime, ok_bind]
    dsimp only
    rw [hr, ok_bind, hcompare]
    rfl
  have hsame : ∃ e ∈ some r, e.same r := ⟨r, rfl, rfl, rfl, sameValue_self _, sameValue_self _⟩
  have hrun : accept call.feed call.sourceUrl call.write files = (.ok r, files) := by
    simp only [accept, Proc.bind_apply, Proc.get_apply, Proc.ofExcept_apply, hvalidate, hr,
      if_pos hsame, Proc.pure_apply]
  rw [step, hrun]

/-- The second of two feeds is of a later instant. -/
def Newer (feed feed' : CheckPackFeed) : Prop :=
  ∃ t t', parseGeneratedAt feed.generatedAt = .ok t ∧
    parseGeneratedAt feed'.generatedAt = .ok t' ∧ t < t'

/-- What an entry of a trace did: it accepted a generation of this feed. -/
def Accepts (feedId : String) (e : Acceptance × Py AcceptedCheckFeedState) : Prop :=
  e.1.feed.feedId = feedId ∧ ∃ record, e.2 = .ok record

/-- An acceptance of nothing newer leaves the record of a feed on file. -/
theorem Account.keeps {call : Acceptance} {files files' : Files}
    {result : Py AcceptedCheckFeedState} (h : Account call files files' result)
    {feed : CheckPackFeed} {r : AcceptedCheckFeedState} {t : Int}
    (hr : getState feed.feedId files = .ok (some r)) (hrecords : Records feed r t)
    (hnothing : Accepts feed.feedId (call, result) → ¬ Newer feed call.feed) :
    getState feed.feedId files' = .ok (some r) := by
  cases h with
  | refused e unchanged => rw [unchanged, hr]
  | known record t' records onFile unchanged => rw [unchanged, hr]
  | written t' records newer onFile elsewhere =>
    by_cases hid : call.feed.feedId = feed.feedId
    · obtain ⟨existing, hexisting, hnewer⟩ := newer
      rw [hid, hr] at hexisting
      obtain ⟨t₀, ht₀, hlt⟩ := hnewer r (Except.ok.inj hexisting).symm
      obtain rfl : t = t₀ := Except.ok.inj (hrecords.recordTime.symm.trans ht₀)
      have hnewer : Newer feed call.feed := ⟨t, t', hrecords.feedTime, records.feedTime, hlt⟩
      exact absurd hnewer (hnothing ⟨hid, _, rfl⟩)
    · rw [getState_congr (elsewhere _ (Ne.symm hid)), hr]

/-- A record stays on file while nothing newer of its feed is accepted. -/
theorem kept_run {files : Files} {feed : CheckPackFeed} {r : AcceptedCheckFeedState} {t : Int}
    (hr : getState feed.feedId files = .ok (some r)) (hrecords : Records feed r t)
    {calls : List Acceptance}
    (hnothing : ∀ e ∈ trace step files calls, Accepts feed.feedId e → ¬ Newer feed e.1.feed) :
    getState feed.feedId (final step files calls) = .ok (some r) := by
  induction calls generalizing files with
  | nil => exact hr
  | cons call calls ih =>
    rw [trace_cons, List.forall_mem_cons] at hnothing
    exact ih ((step_account files call).keeps hr hrecords hnothing.1) hnothing.2

/-- **Check feeds cannot be replayed.**  Over every run of acceptances, with any of their writes
failing: of one feed, what is accepted later is of a later instant, or of the same instant and has
the same digest; an acceptance that raises leaves every file as it was; an acceptance that
succeeded, made again while nothing newer of its feed has been accepted since, succeeds with the
same record and leaves every file as it is; and once something newer has been accepted, it
raises. -/
theorem feed_replay_protection (files : Files) (calls : List Acceptance) :
    (trace step files calls).Pairwise InOrder ∧
    ∀ before call after, calls = before ++ call :: after →
      let files₁ := final step files before
      let files₂ := (step files₁ call).1
      (∀ e, (step files₁ call).2 = .error e → files₂ = files₁) ∧
      (∀ record, (step files₁ call).2 = .ok record → ∀ between rest again,
        after = between ++ rest → again.feed = call.feed →
        let files₃ := final step files₂ between
        ((∀ e ∈ trace step files₂ between, Accepts call.feed.feedId e →
          ¬ Newer call.feed e.1.feed) → step files₃ again = (files₃, .ok record)) ∧
        ((∃ e ∈ trace step files₂ between, Accepts call.feed.feedId e ∧
          Newer call.feed e.1.feed) → ∃ e, step files₃ again = (files₃, .error e))) := by
  refine ⟨pairwise_inOrder files calls, ?_⟩
  intro before call after _ files₁ files₂
  have haccount := step_account files₁ call
  refine ⟨?_, ?_⟩
  · intro e he
    rw [he] at haccount
    cases haccount with
    | refused e unchanged => exact unchanged
  · intro record hok between rest again _ hfeed files₃
    rw [hok] at haccount
    obtain ⟨hr, t, hrecords⟩ := haccount.onFile
    refine ⟨?_, ?_⟩
    · intro hnothing
      have hkept : getState call.feed.feedId files₃ = .ok (some record) :=
        kept_run hr hrecords hnothing
      rw [← hfeed] at hkept hrecords
      exact step_again hkept hrecords
    · rintro ⟨e, he, ⟨hid, r, hr⟩, t₁, t₂, ht₁, ht₂, hlt⟩
      have hpairs := pairwise_inOrder files₂ (between ++ [again])
      rw [trace_concat, List.pairwise_append] at hpairs
      have hlast := hpairs.2.2 e he _ (List.mem_singleton_self _)
      have hagain := step_account files₃ again
      cases hresult : (step files₃ again).2 with
      | ok r' =>
        obtain ⟨t₂', t₁', ht₂', ht₁', hle, -⟩ :=
          hlast r r' (hid.trans (congrArg CheckPackFeed.feedId hfeed).symm) hr hresult
        obtain rfl : t₂ = t₂' := Except.ok.inj (ht₂.symm.trans ht₂')
        rw [hfeed] at ht₁'
        obtain rfl : t₁ = t₁' := Except.ok.inj (ht₁.symm.trans ht₁')
        exact absurd hlt (not_lt.mpr hle)
      | error e' =>
        rw [hresult] at hagain
        cases hagain with
        | refused e' unchanged => exact ⟨e', Prod.ext unchanged hresult⟩

end NightRecon.RedEngine.CheckFeedState
