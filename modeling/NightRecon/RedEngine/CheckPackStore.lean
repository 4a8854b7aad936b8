import NightRecon.Documents
import NightRecon.Lib.Dict
import NightRecon.Lib.JsonRoundTrip
import NightRecon.Lib.Machine
import NightRecon.Lib.Proc
import NightRecon.Lib.Sha256

/-!
# The check-pack store

`nightrecon_red_engine/check_pack_store.py`: signed packs in files of their own, which are written
once, and for each pack identifier a state file with the active version and those it replaced.

* `Files` — the files; each replacement of a file is given its outcome, and a call that is
  interrupted between two writes is one whose next write raises;
* `installSignedPack`, `rollback`, `rollbackVerified`, `Call`, `step` — the calls;
* `stack` — the activations not rolled back, the active version on top; `Event` — what a successful
  call does to it;
* `Sound` — every version of a stack has its pack file;
* `step_account` — what one call does; `pack_store_run` — whole runs.

How a signed pack is verified is left open: `load` is any function of the text and the trusted keys
that gives a pack or raises.
-/

namespace NightRecon.RedEngine.CheckPackStore

open NightRecon.Lib
open NightRecon.Lib.Checks
open NightRecon.Lib.Machine
open NightRecon.Lib.Text
open NightRecon.Documents

/-! ## Files -/

/-- What the store looks at of a verified pack. -/
structure CheckPack where
  packId : String
  version : String
  deriving DecidableEq

/-- The texts of the pack files, by identifier and version, and of the state files. -/
structure Files where
  packs : Dict (String × String) String
  states : Dict String String

def Files.empty : Files := ⟨∅, ∅⟩

/-- A letter or digit, and then letters, digits and some punctuation. -/
def safeComponent (punctuation : List Char) (value : String) : Bool :=
  match value.toList with
  | [] => false
  | c :: rest => isAlnum c && rest.all fun d => isAlnum d || d ∈ punctuation

/-- `_SAFE_ID`. -/
def isSafeId (value : String) : Bool := safeComponent ['.', '_', '-'] value

/-- `_SAFE_VERSION`. -/
def isSafeVersion (value : String) : Bool := safeComponent ['.', '_', '+', '-'] value

def validateId (packId : String) : Py Unit :=
  require (isSafeId packId = true) (valueError ("Unsafe check-pack ID for storage: " ++ packId))

def validateVersion (version : String) : Py Unit :=
  require (isSafeVersion version = true)
    (valueError ("Unsafe check-pack version for storage: " ++ version))

/-! ## The state file -/

def invalidState : Exn := valueError "Installed check-pack state is invalid."

/-- Source: `check_pack_store.py` `_read_state`. -/
def readState (packId : String) (s : Files) : Py Json :=
  match s.states.lookup packId with
  | none => .ok (.obj [])
  | some text => do
      let payload ← getOrRaise (Json.loads text) invalidState
      require (keys? payload).isSome invalidState
      return payload

def historyItem : Json → Py String
  | .str v => .ok v
  | _ => .error invalidState

/-- Source: `check_pack_store.py` `_state_history`. -/
def stateHistory (state : Json) : Py (List String) :=
  match state.get? "history" with
  | none => .ok []
  | some (.arr items) => items.mapM historyItem
  | some _ => .error invalidState

/-- The text under `active_version`, when it is one. -/
def activeText (state : Json) : Option String :=
  match state.get? "active_version" with
  | some (.str v) => some v
  | _ => none

/-- The document of a state file. -/
def stateDocument (active : String) (history : List String) : Json :=
  .obj [("active_version", .str active), ("history", .strings history)]

/-- Replace the state file; `write` is the outcome.
Source: `check_pack_store.py` `_write_state`. -/
def writeState (packId active : String) (history : List String) (write : Py Unit) :
    Proc Exn Files Unit := do
  Proc.ofExcept write
  Proc.modify fun s =>
    { s with states := s.states.insert packId (Json.dumps (stateDocument active history)) }

/-! ## The calls -/

section Calls

variable {Keys : Type} (load : String → Keys → Py CheckPack)

/-- Source: `check_pack_store.py` `InstalledCheckPackRecord`, without the path. -/
structure InstalledCheckPackRecord where
  packId : String
  version : String
  signerKeyId : String
  sha256 : String
  deriving DecidableEq

/-- Source: `check_pack_store.py` `_extract_signer_key_id`. -/
def extractSignerKeyId (text : String) : Py String := do
  let document ← getOrRaise (Json.loads text) (valueError "Invalid signed check-pack JSON.")
  require (keys? document).isSome (valueError "Signed check pack must be a JSON object.")
  match document.get? "key_id" with
  | some (.str keyId) =>
      raiseIf (strip keyId = "") (valueError "Signed check pack requires key_id.")
      return strip keyId
  | _ => .error (valueError "Signed check pack requires key_id.")

/-- The digest of a file with this text. -/
def digest (text : String) : String := Sha256.hexOf text.toList

/-- The pack file is written, unless there is one: that one has to have the same digest. -/
def storePack (packId version text : String) (write : Py Unit) : Proc Exn Files Unit := do
  let s ← Proc.get
  match s.packs.lookup (packId, version) with
  | some existing =>
      Proc.ofExcept (raiseIf (digest existing ≠ digest text)
        (valueError "Installed check-pack versions are immutable."))
  | none =>
      Proc.ofExcept write
      Proc.modify fun s => { s with packs := s.packs.insert (packId, version) text }

/-- The version becomes the active one, and the one it replaces the last of the history. -/
def activate (packId version : String) (write : Py Unit) : Proc Exn Files Unit := do
  let s ← Proc.get
  let state ← Proc.ofExcept (readState packId s)
  let history ← Proc.ofExcept (stateHistory state)
  let replaced := (activeText state).toList.filter fun v => v ≠ "" ∧ v ≠ version
  if activeText state = some version then return ()
  else writeState packId version (history ++ replaced) write

/-- `packWrite` and `stateWrite` are the outcomes of replacing the two files.
Source: `check_pack_store.py` `install_signed_pack`. -/
def installSignedPack (text : String) (trustedKeys : Keys) (packWrite stateWrite : Py Unit) :
    Proc Exn Files InstalledCheckPackRecord := do
  let pack ← Proc.ofExcept (load text trustedKeys)
  let signerKeyId ← Proc.ofExcept (extractSignerKeyId text)
  Proc.ofExcept (validateId pack.packId)
  Proc.ofExcept (validateVersion pack.version)
  storePack pack.packId pack.version text packWrite
  activate pack.packId pack.version stateWrite
  return ⟨pack.packId, pack.version, signerKeyId, digest text⟩

/-- The version a rollback goes back to, and the history before it. -/
def previousVersion (packId : String) (s : Files) : Py (String × List String) := do
  let state ← readState packId s
  let history ← stateHistory state
  let previous ← getOrRaise history.getLast?
    (valueError "No previous active version is available.")
  return (previous, history.dropLast)

/-- Source: `check_pack_store.py` `rollback_verified`. -/
def rollbackVerified (packId : String) (trustedKeys : Keys) (write : Py Unit) :
    Proc Exn Files String := do
  Proc.ofExcept (validateId packId)
  let s ← Proc.get
  let (previous, history) ← Proc.ofExcept (previousVersion packId s)
  Proc.ofExcept (validateVersion previous)
  let text ← Proc.ofExcept (getOrRaise (s.packs.lookup (packId, previous))
    (valueError "Previous active check-pack version is missing."))
  let pack ← Proc.ofExcept (load text trustedKeys)
  Proc.ofExcept (raiseIf (pack.packId ≠ packId ∨ pack.version ≠ previous)
    (valueError "Previous check-pack metadata does not match storage state."))
  writeState packId previous history write
  return previous

/-- Source: `check_pack_store.py` `rollback`. -/
def rollback (packId : String) (write : Py Unit) : Proc Exn Files String := do
  Proc.ofExcept (validateId packId)
  let s ← Proc.get
  let (previous, history) ← Proc.ofExcept (previousVersion packId s)
  Proc.ofExcept (validateVersion previous)
  Proc.ofExcept (require (s.packs.lookup (packId, previous)).isSome
    (valueError "Previous active check-pack version is missing."))
  writeState packId previous history write
  return previous

/-- A call, with the outcomes of the writes it may make. -/
inductive Call (Keys : Type) where
  | install (text : String) (trustedKeys : Keys) (packWrite stateWrite : Py Unit)
  | rollback (packId : String) (write : Py Unit)
  | rollbackVerified (packId : String) (trustedKeys : Keys) (write : Py Unit)

/-- What a call returns. -/
inductive Answer where
  | installed (record : InstalledCheckPackRecord)
  | rolledBack (packId version : String)
  deriving DecidableEq

/-- The procedure of a call. -/
def body : Call Keys → Proc Exn Files Answer
  | .install text keys packWrite stateWrite =>
      .installed <$> installSignedPack load text keys packWrite stateWrite
  | .rollback packId write => .rolledBack packId <$> CheckPackStore.rollback packId write
  | .rollbackVerified packId keys write =>
      .rolledBack packId <$> CheckPackStore.rollbackVerified load packId keys write

/-- One call.  What it wrote before it raised stays. -/
def step (s : Files) (call : Call Keys) : Files × Py Answer :=
  ((body load call s).2, (body load call s).1)

end Calls

/-! ## Activations as a stack -/

/-- The active version of a pack. -/
def active (packId : String) (s : Files) : Option String :=
  ((readState packId s).toOption.bind activeText).filter fun v => v ≠ ""

/-- The versions it replaced, the last one last. -/
def history (packId : String) (s : Files) : List String :=
  ((readState packId s) >>= stateHistory).toOption.getD []

/-- The activations not rolled back, the active version on top. -/
def stack (packId : String) (s : Files) : List String :=
  (active packId s).toList ++ (history packId s).reverse

/-- What a successful call does to the stack of its pack. -/
inductive Event where
  | activate (version : String)
  | rollback
  deriving DecidableEq

/-- Activating the version on top changes nothing. -/
def Event.apply (st : List String) : Event → List String
  | .activate version => if st.head? = some version then st else version :: st
  | .rollback => st.tail

/-- The pack an answer is about. -/
def Answer.packId : Answer → String
  | .installed record => record.packId
  | .rolledBack packId _ => packId

def Answer.event : Answer → Event
  | .installed record => .activate record.version
  | .rolledBack _ _ => .rollback

/-- The events of one pack in a trace. -/
def events {Keys : Type} (packId : String) (entry : Call Keys × Py Answer) : List Event :=
  match entry.2 with
  | .ok answer => if answer.packId = packId then [answer.event] else []
  | .error _ => []

/-! ## The state file read back -/

theorem normal_stateDocument (a : String) (h : List String) :
    Json.normal (stateDocument a h) = stateDocument a h := by
  have hsorted : Json.sortMembers [("active_version", Json.str a), ("history", .strings h)] =
      [("active_version", Json.str a), ("history", .strings h)] := by
    apply List.Pairwise.insertionSort_eq
    rw [List.pairwise_pair]
    exact (by decide : "active_version" ≤ "history")
  rw [stateDocument, Json.normal_obj, hsorted]
  simp only [List.map_cons, List.map_nil, Json.normal_strings]
  rfl

theorem valid_stateDocument (a : String) (h : List String) : Json.valid (stateDocument a h) := by
  refine ⟨?_, trivial, Json.valid_strings h, trivial⟩
  show ["active_version", "history"].Nodup
  decide

theorem stateHistory_stateDocument (a : String) (h : List String) :
    stateHistory (stateDocument a h) = .ok h := by
  show (h.map Json.str).mapM historyItem = .ok h
  rw [mapM_eq_ok, List.forall₂_map_left_iff]
  exact List.forall₂_same.mpr fun _ _ => rfl

/-- **A state file that was written reads as what was written.** -/
theorem readState_written {packId a : String} {h : List String} {s : Files}
    (hfile : s.states.lookup packId = some (Json.dumps (stateDocument a h))) :
    readState packId s = .ok (stateDocument a h) := by
  simp only [readState, hfile, Json.loads_dumps (valid_stateDocument a h), normal_stateDocument,
    getOrRaise, ok_bind]
  rfl

theorem readState_missing {packId : String} {s : Files} (hfile : s.states.lookup packId = none) :
    readState packId s = .ok (.obj []) := by
  rw [readState, hfile]

theorem stack_missing {packId : String} {s : Files} (hfile : s.states.lookup packId = none) :
    stack packId s = [] := by
  rw [stack, active, history, readState_missing hfile]
  rfl

theorem stack_written {packId a : String} {h : List String} {s : Files} (ha : a ≠ "")
    (hfile : s.states.lookup packId = some (Json.dumps (stateDocument a h))) :
    stack packId s = a :: h.reverse := by
  have hactive : active packId s = some a := by
    rw [active, readState_written hfile]
    show (some a).filter (fun v => v ≠ "") = some a
    rw [Option.filter_some, if_pos (decide_eq_true ha)]
  have hhistory : history packId s = h := by
    rw [history, readState_written hfile, ok_bind, stateHistory_stateDocument]
    rfl
  rw [stack, hactive, hhistory]
  rfl

/-- The stack is read from the state file. -/
theorem stack_congr {packId : String} {s s' : Files}
    (h : s'.states.lookup packId = s.states.lookup packId) : stack packId s' = stack packId s := by
  rw [stack, stack, active, active, history, history, readState, readState, h]

theorem ne_of_isSafeVersion {v : String} (h : isSafeVersion v = true) : v ≠ "" := by
  rintro rfl
  exact absurd h (by decide)

/-! ## What a call can do -/

section Account

variable {Keys : Type} {load : String → Keys → Py CheckPack}

/-- Every pack file holds a pack of that identifier and version which some keys verified, and every
version in a state file has its pack file. -/
structure Sound (load : String → Keys → Py CheckPack) (s : Files) : Prop where
  packs : ∀ k text, s.packs.lookup k = some text →
    isSafeId k.1 = true ∧ isSafeVersion k.2 = true ∧ ∃ keys, load text keys = .ok ⟨k.1, k.2⟩
  states : ∀ id text, s.states.lookup id = some text →
    ∃ a h, text = Json.dumps (stateDocument a h) ∧
      ∀ v ∈ a :: h, ∃ t, s.packs.lookup (id, v) = some t

/-- No pack file is changed or gone. -/
def Extends (s s' : Files) : Prop :=
  ∀ k text, s.packs.lookup k = some text → s'.packs.lookup k = some text

theorem Extends.trans {s s' s'' : Files} (h : Extends s s') (h' : Extends s' s'') :
    Extends s s'' := fun k text hk => h' k text (h k text hk)

theorem sound_empty : Sound load Files.empty := by
  refine ⟨?_, ?_⟩
  · intro k text hk
    rw [Files.empty, Finmap.lookup_empty] at hk
    cases hk
  · intro id text hid
    rw [Files.empty, Finmap.lookup_empty] at hid
    cases hid

/-- A state of a sound store: there is none, or it reads as the stack. -/
theorem Sound.stack_eq {s : Files} (hs : Sound load s) (packId : String) :
    (readState packId s = .ok (.obj []) ∧ stack packId s = []) ∨
      ∃ a h, readState packId s = .ok (stateDocument a h) ∧ stack packId s = a :: h.reverse ∧
        ∀ v ∈ a :: h, ∃ t, s.packs.lookup (packId, v) = some t := by
  cases hfile : s.states.lookup packId with
  | none => exact .inl ⟨readState_missing hfile, stack_missing hfile⟩
  | some text =>
    obtain ⟨a, h, rfl, hstored⟩ := hs.states packId text hfile
    obtain ⟨t, ht⟩ := hstored a List.mem_cons_self
    have ha : a ≠ "" := ne_of_isSafeVersion (hs.packs _ t ht).2.1
    exact .inr ⟨a, h, readState_written hfile, stack_written ha hfile, hstored⟩

/-- The pack file is there when this returns, and no stack changes. -/
theorem storePack_spec {s s' : Files} (hs : Sound load s) {packId version text : String}
    {keys : Keys} (hload : load text keys = .ok ⟨packId, version⟩)
    (hid : isSafeId packId = true) (hversion : isSafeVersion version = true) {write r : Py Unit}
    (h : storePack packId version text write s = (r, s')) :
    Sound load s' ∧ Extends s s' ∧ s'.states = s.states ∧
      (r = .ok () → ∃ t, s'.packs.lookup (packId, version) = some t) := by
  simp only [storePack, Proc.bind_apply, Proc.get_apply] at h
  cases hfile : s.packs.lookup (packId, version) with
  | some existing =>
    rw [hfile] at h
    obtain ⟨-, rfl⟩ := Prod.mk.inj h
    exact ⟨hs, fun _ _ hk => hk, rfl, fun _ => ⟨existing, hfile⟩⟩
  | none =>
    rw [hfile] at h
    rcases Proc.ofExcept_cases h with ⟨e, rfl, rfl⟩ | ⟨u, -, hwritten⟩
    · exact ⟨hs, fun _ _ hk => hk, rfl, fun hok => by cases hok⟩
    · obtain ⟨rfl, rfl⟩ := Prod.mk.inj hwritten
      have hextends : Extends s { s with packs := s.packs.insert (packId, version) text } := by
        intro k t hk
        rw [Dict.lookup_insert_eq, if_neg]
        · exact hk
        · rintro rfl
          rw [hfile] at hk
          cases hk
      refine ⟨⟨?_, ?_⟩, hextends, rfl, fun _ => ⟨text, Finmap.lookup_insert _⟩⟩
      · intro k t hk
        rw [Dict.lookup_insert_eq] at hk
        split at hk
        · next heq =>
          rw [heq, ← Option.some.inj hk]
          exact ⟨hid, hversion, keys, hload⟩
        · exact hs.packs k t hk
      · intro id t hstate
        obtain ⟨a, hist, htext, hstored⟩ := hs.states id t hstate
        refine ⟨a, hist, htext, fun v hv => ?_⟩
        obtain ⟨t', ht'⟩ := hstored v hv
        exact ⟨t', hextends _ _ ht'⟩

/-- What a call that returned made of the store: the stack of one pack has changed to `st`. -/
structure Turned (load : String → Keys → Py CheckPack) (s s' : Files) (packId : String)
    (st : List String) : Prop where
  sound : Sound load s'
  packs : Extends s s'
  here : stack packId s' = st
  elsewhere : ∀ id, id ≠ packId → stack id s' = stack id s

/-- Writing a state of stored versions: it happens, or it raises and nothing changes. -/
theorem writeState_spec {s s' : Files} (hs : Sound load s) {packId a : String} {h : List String}
    (hstored : ∀ v ∈ a :: h, ∃ t, s.packs.lookup (packId, v) = some t) {write r : Py Unit}
    (hwrite : writeState packId a h write s = (r, s')) :
    (∃ e, r = .error e) ∧ s' = s ∨ r = .ok () ∧ Turned load s s' packId (a :: h.reverse) := by
  rcases Proc.ofExcept_cases hwrite with ⟨e, rfl, rfl⟩ | ⟨u, -, hwritten⟩
  · exact .inl ⟨⟨e, rfl⟩, rfl⟩
  · obtain ⟨rfl, rfl⟩ := Prod.mk.inj hwritten
    obtain ⟨t, ht⟩ := hstored a List.mem_cons_self
    have ha : a ≠ "" := ne_of_isSafeVersion (hs.packs _ t ht).2.1
    refine .inr ⟨rfl, ⟨hs.packs, ?_⟩, fun _ _ hk => hk, ?_, ?_⟩
    · intro id text hid
      rw [Dict.lookup_insert_eq] at hid
      split at hid
      · next heq =>
        subst heq
        exact ⟨a, h, (Option.some.inj hid).symm, hstored⟩
      · exact hs.states id text hid
    · exact stack_written ha (Finmap.lookup_insert _)
    · intro id hid
      exact stack_congr (Finmap.lookup_insert_of_ne _ hid)

/-- Activating a stored version puts it on top of the stack. -/
theorem activate_spec {s s' : Files} (hs : Sound load s) {packId version : String}
    (hstored : ∃ t, s.packs.lookup (packId, version) = some t) {write r : Py Unit}
    (h : activate packId version write s = (r, s')) :
    (∃ e, r = .error e) ∧ s' = s ∨
      r = .ok () ∧ Turned load s s' packId ((Event.activate version).apply (stack packId s)) := by
  simp only [activate, Proc.bind_apply, Proc.get_apply, Proc.ofExcept_apply] at h
  rcases hs.stack_eq packId with ⟨hread, hstack⟩ | ⟨a, hist, hread, hstack, hall⟩
  · have hnone : stateHistory (.obj []) = .ok [] := rfl
    have hinactive : activeText (.obj []) = none := rfl
    rw [hread] at h
    simp only [hnone, hinactive] at h
    rw [if_neg (by simp)] at h
    rw [hstack]
    refine writeState_spec hs ?_ h
    intro v hv
    rw [List.mem_singleton.mp hv]
    exact hstored
  · have hactive : activeText (stateDocument a hist) = some a := rfl
    rw [hread] at h
    simp only [stateHistory_stateDocument, hactive] at h
    rw [hstack]
    by_cases hsame : a = version
    · rw [if_pos (by rw [hsame])] at h
      obtain ⟨rfl, rfl⟩ := Prod.mk.inj h
      refine .inr ⟨rfl, hs, fun _ _ hk => hk, ?_, fun _ _ => rfl⟩
      rw [hstack]
      exact (if_pos (by rw [hsame]; rfl)).symm
    · have ha : a ≠ "" := by
        obtain ⟨t, ht⟩ := hall a List.mem_cons_self
        exact ne_of_isSafeVersion (hs.packs _ t ht).2.1
      have hreplaced : ((some a).toList.filter fun v => v ≠ "" ∧ v ≠ version) = [a] := by
        rw [Option.toList_some, List.filter_cons_of_pos (by simp [ha, hsame]), List.filter_nil]
      have hnew : Event.apply (a :: hist.reverse) (.activate version) =
          version :: (hist ++ [a]).reverse := by
        rw [Event.apply, List.head?_cons, if_neg (by simpa using hsame), List.reverse_append]
        rfl
      rw [if_neg (by simpa using hsame), hreplaced] at h
      rw [hnew]
      refine writeState_spec hs ?_ h
      intro v hv
      rcases List.mem_cons.mp hv with rfl | hv
      · exact hstored
      · apply hall v
        rcases List.mem_append.mp hv with hv | hv
        · exact List.mem_cons_of_mem _ hv
        · exact List.mem_cons.mpr (.inl (List.mem_singleton.mp hv))

/-- The version a rollback goes back to is the second of the stack. -/
theorem previousVersion_spec {s : Files} (hs : Sound load s) {packId previous : String}
    {hist : List String} (h : previousVersion packId s = .ok (previous, hist)) :
    (∃ a, stack packId s = a :: previous :: hist.reverse) ∧
      ∀ v ∈ previous :: hist, ∃ t, s.packs.lookup (packId, v) = some t := by
  simp only [previousVersion, bind_eq_ok, getOrRaise_eq_ok, pure_eq_ok, Except.ok.injEq,
    Prod.mk.injEq] at h
  obtain ⟨state, hread, hist₁, hhist, last, hlast, rfl, rfl⟩ := h
  rcases hs.stack_eq packId with ⟨hread', -⟩ | ⟨a, h, hread', hstack, hall⟩
  · obtain rfl := Except.ok.inj (hread.symm.trans hread')
    obtain rfl : hist₁ = [] := (Except.ok.inj hhist).symm
    cases hlast
  · obtain rfl := Except.ok.inj (hread.symm.trans hread')
    obtain rfl : hist₁ = h := Except.ok.inj (hhist.symm.trans (stateHistory_stateDocument a h))
    have hsplit : hist₁ = hist₁.dropLast ++ [last] := (List.dropLast_append_getLast? last hlast).symm
    have hrev : hist₁.reverse = last :: hist₁.dropLast.reverse := by
      conv_lhs => rw [hsplit]
      rw [List.reverse_append, List.reverse_singleton, List.singleton_append]
    refine ⟨⟨a, by rw [hstack, hrev]⟩, ?_⟩
    intro v hv
    apply hall v
    rw [List.mem_cons, hsplit, List.mem_append, List.mem_singleton]
    rcases List.mem_cons.mp hv with rfl | hv
    · exact .inr (.inr rfl)
    · exact .inr (.inl hv)

/-- Writing the state a rollback goes back to. -/
theorem reactivate_spec {s s' : Files} (hs : Sound load s) {packId previous : String}
    {hist : List String} (hprevious : previousVersion packId s = .ok (previous, hist))
    {write : Py Unit} {r : Py String}
    (h : (do writeState packId previous hist write; return previous : Proc Exn Files String) s =
      (r, s')) :
    (∃ e, r = .error e) ∧ s' = s ∨ r = .ok previous ∧
      (∃ a, stack packId s = a :: previous :: hist.reverse) ∧
      Turned load s s' packId (previous :: hist.reverse) := by
  obtain ⟨hstack, hall⟩ := previousVersion_spec hs hprevious
  rcases Proc.bind_cases h with ⟨e, hwrite, rfl⟩ | ⟨u, s₁, hwrite, hreturn⟩
  · rcases writeState_spec hs hall hwrite with ⟨-, rfl⟩ | ⟨hok, -⟩
    · exact .inl ⟨⟨e, rfl⟩, rfl⟩
    · cases hok
  · obtain ⟨rfl, rfl⟩ := Prod.mk.inj hreturn
    rcases writeState_spec hs hall hwrite with ⟨⟨e, herror⟩, -⟩ | ⟨-, hturned⟩
    · cases herror
    · exact .inr ⟨rfl, hstack, hturned⟩

/-- A rollback raises and changes nothing, or goes back to the second version of the stack. -/
def RollsBack (load : String → Keys → Py CheckPack) (packId : String) (s s' : Files)
    (r : Py String) : Prop :=
  (∃ e, r = .error e) ∧ s' = s ∨ ∃ a previous rest, r = .ok previous ∧
    stack packId s = a :: previous :: rest ∧ Turned load s s' packId (previous :: rest)

theorem RollsBack.of_reactivated {s s' : Files} {packId previous : String} {hist : List String}
    {r : Py String} (h : (∃ e, r = .error e) ∧ s' = s ∨ r = .ok previous ∧
      (∃ a, stack packId s = a :: previous :: hist.reverse) ∧
      Turned load s s' packId (previous :: hist.reverse)) : RollsBack load packId s s' r := by
  rcases h with hraised | ⟨hok, ⟨a, hstack⟩, hturned⟩
  · exact .inl hraised
  · exact .inr ⟨a, previous, hist.reverse, hok, hstack, hturned⟩

theorem rollback_spec {s s' : Files} (hs : Sound load s) {packId : String} {write : Py Unit}
    {r : Py String} (h : CheckPackStore.rollback packId write s = (r, s')) :
    RollsBack load packId s s' r := by
  unfold CheckPackStore.rollback at h
  rcases Proc.ofExcept_cases h with ⟨e, rfl, rfl⟩ | ⟨-, -, h⟩
  · exact .inl ⟨⟨e, rfl⟩, rfl⟩
  rw [Proc.bind_apply, Proc.get_apply] at h
  rcases Proc.ofExcept_cases h with ⟨e, rfl, rfl⟩ | ⟨⟨previous, hist⟩, hprevious, h⟩
  · exact .inl ⟨⟨e, rfl⟩, rfl⟩
  rcases Proc.ofExcept_cases h with ⟨e, rfl, rfl⟩ | ⟨-, -, h⟩
  · exact .inl ⟨⟨e, rfl⟩, rfl⟩
  rcases Proc.ofExcept_cases h with ⟨e, rfl, rfl⟩ | ⟨-, -, h⟩
  · exact .inl ⟨⟨e, rfl⟩, rfl⟩
  exact .of_reactivated (reactivate_spec hs hprevious h)

theorem rollbackVerified_spec {s s' : Files} (hs : Sound load s) {packId : String} {keys : Keys}
    {write : Py Unit} {r : Py String}
    (h : CheckPackStore.rollbackVerified load packId keys write s = (r, s')) :
    RollsBack load packId s s' r := by
  unfold CheckPackStore.rollbackVerified at h
  rcases Proc.ofExcept_cases h with ⟨e, rfl, rfl⟩ | ⟨-, -, h⟩
  · exact .inl ⟨⟨e, rfl⟩, rfl⟩
  rw [Proc.bind_apply, Proc.get_apply] at h
  rcases Proc.ofExcept_cases h with ⟨e, rfl, rfl⟩ | ⟨⟨previous, hist⟩, hprevious, h⟩
  · exact .inl ⟨⟨e, rfl⟩, rfl⟩
  rcases Proc.ofExcept_cases h with ⟨e, rfl, rfl⟩ | ⟨-, -, h⟩
  · exact .inl ⟨⟨e, rfl⟩, rfl⟩
  rcases Proc.ofExcept_cases h with ⟨e, rfl, rfl⟩ | ⟨text, -, h⟩
  · exact .inl ⟨⟨e, rfl⟩, rfl⟩
  rcases Proc.ofExcept_cases h with ⟨e, rfl, rfl⟩ | ⟨pack, -, h⟩
  · exact .inl ⟨⟨e, rfl⟩, rfl⟩
  rcases Proc.ofExcept_cases h with ⟨e, rfl, rfl⟩ | ⟨-, -, h⟩
  · exact .inl ⟨⟨e, rfl⟩, rfl⟩
  exact .of_reactivated (reactivate_spec hs hprevious h)

/-- An installation raises and leaves the state files alone, or activates its version. -/
theorem installSignedPack_spec {s s' : Files} (hs : Sound load s) {text : String} {keys : Keys}
    {packWrite stateWrite : Py Unit} {r : Py InstalledCheckPackRecord}
    (h : installSignedPack load text keys packWrite stateWrite s = (r, s')) :
    (∃ e, r = .error e) ∧ Sound load s' ∧ Extends s s' ∧ s'.states = s.states ∨
      ∃ record, r = .ok record ∧ Turned load s s' record.packId
        ((Event.activate record.version).apply (stack record.packId s)) := by
  have hnothing : Extends s s := fun _ _ hk => hk
  unfold installSignedPack at h
  rcases Proc.ofExcept_cases h with ⟨e, rfl, rfl⟩ | ⟨pack, hload, h⟩
  · exact .inl ⟨⟨e, rfl⟩, hs, hnothing, rfl⟩
  rcases Proc.ofExcept_cases h with ⟨e, rfl, rfl⟩ | ⟨signer, -, h⟩
  · exact .inl ⟨⟨e, rfl⟩, hs, hnothing, rfl⟩
  rcases Proc.ofExcept_cases h with ⟨e, rfl, rfl⟩ | ⟨u, hsafe, h⟩
  · exact .inl ⟨⟨e, rfl⟩, hs, hnothing, rfl⟩
  have hid : isSafeId pack.packId = true := require_eq_ok.mp hsafe
  rcases Proc.ofExcept_cases h with ⟨e, rfl, rfl⟩ | ⟨u', hsafe', h⟩
  · exact .inl ⟨⟨e, rfl⟩, hs, hnothing, rfl⟩
  have hversion : isSafeVersion pack.version = true := require_eq_ok.mp hsafe'
  rcases Proc.bind_cases h with ⟨e, hstore, rfl⟩ | ⟨u₁, s₁, hstore, h⟩
  · obtain ⟨hs₁, hextends, hstates, -⟩ := storePack_spec hs hload hid hversion hstore
    exact .inl ⟨⟨e, rfl⟩, hs₁, hextends, hstates⟩
  obtain ⟨hs₁, hextends, hstates, hstored⟩ := storePack_spec hs hload hid hversion hstore
  have hsame : ∀ id, stack id s₁ = stack id s := fun id => stack_congr (by rw [hstates])
  rcases Proc.bind_cases h with ⟨e, hactivate, rfl⟩ | ⟨u₂, s₂, hactivate, h⟩
  · rcases activate_spec hs₁ (hstored rfl) hactivate with ⟨-, rfl⟩ | ⟨hok, -⟩
    · exact .inl ⟨⟨e, rfl⟩, hs₁, hextends, hstates⟩
    · cases hok
  · obtain ⟨rfl, rfl⟩ := Prod.mk.inj h
    rcases activate_spec hs₁ (hstored rfl) hactivate with ⟨⟨e, herror⟩, -⟩ | ⟨-, hturned⟩
    · cases herror
    · refine .inr ⟨_, rfl, hturned.sound, hextends.trans hturned.packs, ?_, ?_⟩
      · rw [hturned.here, hsame]
      · intro id hid
        rw [hturned.elsewhere id hid, hsame]

/-- What one call may do: raise and leave every state file alone, or return and apply its event to
the stack of its pack; a rollback answers with the second version of it. -/
inductive Account (load : String → Keys → Py CheckPack) (s s' : Files) : Py Answer → Prop where
  | raised (e : Exn) (sound : Sound load s') (packs : Extends s s') (states : s'.states = s.states) :
      Account load s s' (.error e)
  | returned (answer : Answer)
      (turned : Turned load s s' answer.packId (answer.event.apply (stack answer.packId s)))
      (second : ∀ id v, answer = .rolledBack id v → ∃ a rest, stack id s = a :: v :: rest) :
      Account load s s' (.ok answer)

theorem Account.of_rollsBack {s s' : Files} (hs : Sound load s) {packId : String} {r : Py String}
    (h : RollsBack load packId s s' r) :
    Account load s s' (r.map (Answer.rolledBack packId)) := by
  rcases h with ⟨⟨e, rfl⟩, rfl⟩ | ⟨a, previous, rest, rfl, hstack, hturned⟩
  · exact .raised e hs (fun _ _ hk => hk) rfl
  · refine .returned (.rolledBack packId previous) ?_ ?_
    · show Turned load s s' packId ((stack packId s).tail)
      rw [hstack]
      exact hturned
    · intro id v hanswer
      obtain ⟨rfl, rfl⟩ := Answer.rolledBack.inj hanswer
      exact ⟨a, rest, hstack⟩

/-- **What one call does.** -/
theorem step_account {s : Files} (hs : Sound load s) (call : Call Keys) :
    Account load s (step load s call).1 (step load s call).2 := by
  cases hbody : body load call s with
  | mk r s' =>
    simp only [step, hbody]
    cases call with
    | install text keys packWrite stateWrite =>
      rcases Proc.map_cases hbody with ⟨e, hrun, rfl⟩ | ⟨record, hrun, rfl⟩
      · rcases installSignedPack_spec hs hrun with ⟨-, hs', hextends, hstates⟩ | ⟨r, hok, -⟩
        · exact .raised e hs' hextends hstates
        · cases hok
      · rcases installSignedPack_spec hs hrun with ⟨⟨e, herror⟩, -⟩ | ⟨r, hok, hturned⟩
        · cases herror
        · obtain rfl := Except.ok.inj hok
          exact .returned (.installed record) hturned fun _ _ h => by cases h
    | rollback packId write =>
      rcases Proc.map_cases hbody with ⟨e, hrun, rfl⟩ | ⟨v, hrun, rfl⟩
      · exact .of_rollsBack hs (rollback_spec hs hrun)
      · exact .of_rollsBack hs (rollback_spec hs hrun)
    | rollbackVerified packId keys write =>
      rcases Proc.map_cases hbody with ⟨e, hrun, rfl⟩ | ⟨v, hrun, rfl⟩
      · exact .of_rollsBack hs (rollbackVerified_spec hs hrun)
      · exact .of_rollsBack hs (rollbackVerified_spec hs hrun)

theorem Account.sound {s s' : Files} {r : Py Answer} (h : Account load s s' r) :
    Sound load s' := by
  cases h with
  | raised e sound packs states => exact sound
  | returned answer turned second => exact turned.sound

theorem Account.packs {s s' : Files} {r : Py Answer} (h : Account load s s' r) : Extends s s' := by
  cases h with
  | raised e sound packs states => exact packs
  | returned answer turned second => exact turned.packs

/-- A call applies its events to the stack of every pack. -/
theorem Account.stack {s s' : Files} {call : Call Keys} {r : Py Answer} (h : Account load s s' r)
    (packId : String) : CheckPackStore.stack packId s' =
      (events packId (call, r)).foldl Event.apply (CheckPackStore.stack packId s) := by
  cases h with
  | raised e sound packs states => exact stack_congr (by rw [states])
  | returned answer turned second =>
    by_cases hid : answer.packId = packId
    · have hone : events packId (call, .ok answer) = [answer.event] := if_pos hid
      rw [hone, ← hid]
      exact turned.here
    · have hnone : events packId (call, .ok answer) = [] := if_neg hid
      rw [hnone]
      exact turned.elsewhere packId (Ne.symm hid)

/-! ## Runs -/

theorem sound_run {s : Files} (hs : Sound load s) (calls : List (Call Keys)) :
    Sound load (final (step load) s calls) :=
  invariant (fun s call h => (step_account (s := s) h call).sound) hs calls

theorem extends_run {s : Files} (hs : Sound load s) (calls : List (Call Keys)) :
    Extends s (final (step load) s calls) := by
  induction calls using List.reverseRecOn with
  | nil => exact fun _ _ hk => hk
  | append_singleton calls call ih =>
    rw [final_concat]
    exact ih.trans (step_account (sound_run hs calls) call).packs

/-- **The stacks are those of the events.**  The store implements a stack of activations. -/
theorem stack_run {s : Files} (hs : Sound load s) (calls : List (Call Keys)) (packId : String) :
    stack packId (final (step load) s calls) =
      ((trace (step load) s calls).flatMap (events packId)).foldl Event.apply (stack packId s) := by
  induction calls using List.reverseRecOn with
  | nil => rfl
  | append_singleton calls call ih =>
    rw [final_concat, trace_concat, List.flatMap_append, List.flatMap_singleton,
      List.foldl_append, ← ih]
    exact (step_account (sound_run hs calls) call).stack packId

/-- The active version is the top of the stack. -/
theorem Sound.head_stack {s : Files} (hs : Sound load s) (packId : String) :
    (stack packId s).head? = active packId s := by
  rcases hs.stack_eq packId with ⟨hread, hstack⟩ | ⟨a, h, hread, hstack, hall⟩
  · rw [hstack, active, hread]
    rfl
  · obtain ⟨t, ht⟩ := hall a List.mem_cons_self
    have ha : a ≠ "" := ne_of_isSafeVersion (hs.packs _ t ht).2.1
    rw [hstack, active, hread]
    show some a = (some a).filter fun v => v ≠ ""
    rw [Option.filter_some, if_pos (decide_eq_true ha)]

/-- Every version of a stack has its pack file. -/
theorem Sound.stored {s : Files} (hs : Sound load s) {packId v : String}
    (hv : v ∈ stack packId s) : ∃ text keys, s.packs.lookup (packId, v) = some text ∧
      load text keys = .ok ⟨packId, v⟩ := by
  rcases hs.stack_eq packId with ⟨-, hstack⟩ | ⟨a, h, -, hstack, hall⟩
  · rw [hstack] at hv
    exact absurd hv List.not_mem_nil
  · obtain ⟨text, htext⟩ := hall v (by simpa [hstack] using hv)
    obtain ⟨-, -, keys, hload⟩ := hs.packs _ text htext
    exact ⟨text, keys, htext, hload⟩

/-! ## Rolling back -/

/-- With a second version on the stack and a write that succeeds, a rollback returns it. -/
theorem rollback_returns {s : Files} (hs : Sound load s) {packId a v : String} {rest : List String}
    (hstack : stack packId s = a :: v :: rest) :
    (step load s (.rollback packId (.ok ()))).2 = .ok (.rolledBack packId v) := by
  rcases hs.stack_eq packId with ⟨-, hnone⟩ | ⟨a', h, hread, hsome, hall⟩
  · rw [hnone] at hstack
    cases hstack
  · rw [hsome] at hstack
    obtain ⟨rfl, hrev⟩ := List.cons.inj hstack
    have hlast : h.getLast? = some v := by
      rw [List.getLast?_eq_head?_reverse, hrev, List.head?_cons]
    have hmem : v ∈ a' :: h := List.mem_cons_of_mem _ (List.mem_of_getLast? hlast)
    obtain ⟨text, htext⟩ := hall v hmem
    obtain ⟨hid, hversion, -⟩ := hs.packs _ text htext
    have hprevious : previousVersion packId s = .ok (v, h.dropLast) := by
      rw [previousVersion, hread, ok_bind, stateHistory_stateDocument, ok_bind, hlast]
      rfl
    have hid' : validateId packId = .ok () := require_of hid
    have hversion' : validateVersion v = .ok () := require_of hversion
    have hstored : (s.packs.lookup (packId, v)).isSome = true := by
      rw [htext]
      rfl
    have hrun : (CheckPackStore.rollback packId (.ok ()) s).1 = .ok v := by
      simp only [CheckPackStore.rollback, Proc.bind_apply, Proc.get_apply, Proc.ofExcept_apply,
        hid', hprevious, hversion', require_of hstored, writeState, Proc.modify_apply,
        Proc.pure_apply]
    have hmap : (step load s (.rollback packId (.ok ()))).2 =
        (CheckPackStore.rollback packId (.ok ()) s).1.map (Answer.rolledBack packId) := by
      simp only [step, body]
      rcases hr : CheckPackStore.rollback packId (.ok ()) s with ⟨_ | _, s'⟩
      · exact congrArg Prod.fst (Proc.bind_of_error hr)
      · exact congrArg Prod.fst (Proc.bind_of_ok hr)
    rw [hmap, hrun]
    rfl

/-- A rollback that returned took the top off. -/
theorem stack_of_rolledBack {s : Files} (hs : Sound load s) {call : Call Keys} {packId v : String}
    (h : (step load s call).2 = .ok (.rolledBack packId v)) :
    ∃ a rest, stack packId s = a :: v :: rest ∧
      stack packId (step load s call).1 = v :: rest := by
  have haccount := step_account hs call
  rw [h] at haccount
  cases haccount with
  | returned answer turned second =>
    obtain ⟨a, rest, hstack⟩ := second packId v rfl
    refine ⟨a, rest, hstack, ?_⟩
    have hhere : stack packId (step load s call).1 = (stack packId s).tail := turned.here
    rw [hhere, hstack]
    rfl

/-- **As many rollbacks take as many activations back.** -/
theorem rollbacks_run {s : Files} (hs : Sound load s) (packId : String) (n : Nat)
    (hn : n < (stack packId s).length) :
    stack packId (final (step load) s (List.replicate n (.rollback packId (.ok ())))) =
      (stack packId s).drop n := by
  induction n generalizing s with
  | zero => rfl
  | succ n ih =>
    obtain ⟨a, v, rest, hstack⟩ : ∃ a v rest, stack packId s = a :: v :: rest := by
      rcases hst : stack packId s with _ | ⟨a, _ | ⟨v, rest⟩⟩
      · rw [hst] at hn
        exact absurd hn (Nat.not_lt_zero _)
      · rw [hst] at hn
        exact absurd (Nat.lt_of_succ_lt_succ hn) (Nat.not_lt_zero _)
      · exact ⟨a, v, rest, rfl⟩
    obtain ⟨a', rest', hsame, hnext⟩ := stack_of_rolledBack hs (rollback_returns hs hstack)
    rw [hstack] at hsame hn
    obtain ⟨-, htail⟩ := List.cons.inj hsame
    have hsound := (step_account hs (.rollback packId (.ok ()))).sound
    rw [List.replicate_succ, final_cons, ih hsound, hnext, hstack, ← htail, List.drop_succ_cons]
    rw [hnext, ← htail]
    exact Nat.lt_of_succ_lt_succ hn

/-- **The store over every run.**  Whatever calls were made, with any of their writes failing or the
call interrupted before it: the active version and every version of the history have a pack file
that was verified as that version; a pack file never changes; a call that does not get to its
state write leaves every active version and history as they were; and installations and rollbacks
push and pop a stack whose top is the active version, so that after as many rollbacks the store is
back at the version that was active before as many activations. -/
theorem pack_store_run (load : String → Keys → Py CheckPack) (before after : List (Call Keys)) :
    let s₁ := final (step load) .empty before
    let s₂ := final (step load) .empty (before ++ after)
    (∀ id v, active id s₂ = some v ∨ v ∈ history id s₂ → ∃ text keys,
      s₂.packs.lookup (id, v) = some text ∧ load text keys = .ok ⟨id, v⟩) ∧
    (∀ k text, s₁.packs.lookup k = some text → s₂.packs.lookup k = some text) ∧
    (∀ call e, (step load s₂ call).2 = .error e → ∀ id,
      active id (step load s₂ call).1 = active id s₂ ∧
      history id (step load s₂ call).1 = history id s₂) ∧
    (∀ id, (stack id s₂).head? = active id s₂ ∧ stack id s₂ =
      ((trace (step load) s₁ after).flatMap (events id)).foldl Event.apply (stack id s₁)) ∧
    (∀ id v call, (step load s₂ call).2 = .ok (.rolledBack id v) → ∃ a rest,
      stack id s₂ = a :: v :: rest ∧ stack id (step load s₂ call).1 = v :: rest) ∧
    (∀ id n, n < (stack id s₂).length →
      stack id (final (step load) s₂ (List.replicate n (.rollback id (.ok ())))) =
        (stack id s₂).drop n) := by
  intro s₁ s₂
  have hs₁ : Sound load s₁ := sound_run sound_empty before
  have hs₂ : Sound load s₂ := sound_run sound_empty (before ++ after)
  have hsplit : s₂ = final (step load) s₁ after := final_append _ before after
  refine ⟨?_, ?_, ?_, ?_, ?_, fun id n hn => rollbacks_run hs₂ id n hn⟩
  · intro id v hv
    apply hs₂.stored
    rw [stack, List.mem_append, List.mem_reverse, Option.mem_toList]
    exact hv
  · rw [hsplit]
    exact extends_run hs₁ after
  · intro call e he id
    have haccount := step_account hs₂ call
    rw [he] at haccount
    cases haccount with
    | raised e sound packs states =>
      rw [active, active, history, history, readState, readState, states]
      exact ⟨rfl, rfl⟩
  · intro id
    refine ⟨hs₂.head_stack id, ?_⟩
    rw [hsplit]
    exact stack_run hs₁ after id
  · intro id v call h
    exact stack_of_rolledBack hs₂ h

end Account

end NightRecon.RedEngine.CheckPackStore
