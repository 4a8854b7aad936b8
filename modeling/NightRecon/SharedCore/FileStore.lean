import NightRecon.Lib.FileBacked
import NightRecon.SharedCore.Store

/-!
# The engagement file store

`nightrecon_shared_core/file_store.py`: the in-memory engagement store with a JSON file behind it.
A mutation changes the memory first and then writes the file when the change is one; a write that
raises leaves the changed memory as it is.

* `load`, `payload` — reading and writing the file;
* `setMetadata`, `replaceMetadata`, `append`, `appendEnvelope` — the mutations, each given the
  outcome of the one file replacement it may make.
-/

namespace NightRecon.SharedCore.FileStore

open NightRecon.Lib
open NightRecon.Lib.Checks
open NightRecon.Lib.FileBacked
open NightRecon.Documents
open NightRecon.SharedCore.Contracts
open NightRecon.SharedCore.Store

/-- Source: `file_store.py` `FileEngagementStore`. -/
abbrev FileEngagementStore := FileBacked InMemoryEngagementStore Json

/-! ## The engagement file -/

/-- The document `_persist` writes. -/
def payload (s : InMemoryEngagementStore) : Py Json := do
  let envelopes ← s.engagements.mapM s.exportEnvelope
  return .obj [("schema_version", .int 1),
    ("engagements", .arr (envelopes.map EngagementEnvelope.toDict))]

/-- One turn of the reading loop: the engagements seen and the store so far. -/
def loadItem (acc : Finset String × InMemoryEngagementStore) (item : Json) :
    Py (Finset String × InMemoryEngagementStore) := do
  let envelope ← EngagementEnvelope.fromDict item
  raiseIf (envelope.engagementId ∈ acc.1)
    (valueError "engagement store contains a duplicate engagement")
  let memory ← acc.2.appendEnvelope envelope
  return (insert envelope.engagementId acc.1, memory)

/-- Source: `file_store.py` `FileEngagementStore._load`. -/
def load (file : Option Json) : Py InMemoryEngagementStore :=
  match file with
  | none => .ok .empty
  | some document => do
      require (keys? document = some {"schema_version", "engagements"})
        (valueError "engagement store schema is not supported")
      require ((document.get? "schema_version").any equalsOne)
        (valueError "engagement store schema version is not supported")
      let items ← asArr (document.get? "engagements") "engagements must be a list"
      let (_, memory) ← items.foldlM loadItem (∅, .empty)
      return memory

/-! ## The mutations -/

/-- Write the memory out. -/
def persist (write : Py Unit) : Proc Exn FileEngagementStore Unit :=
  FileBacked.persist payload write

/-- Change the memory by `f`, and write it out when `dirty` compares the memory before and after
as different. -/
def mutate (f : InMemoryEngagementStore → Py InMemoryEngagementStore)
    (dirty : InMemoryEngagementStore → InMemoryEngagementStore → Py Bool) (write : Py Unit) :
    Proc Exn FileEngagementStore Unit := do
  let s ← Proc.get
  let after ← Proc.ofExcept (f s.memory)
  Proc.modify (setMemory after)
  let changed ← Proc.ofExcept (dirty s.memory after)
  if changed then persist write else return ()

/-- Source: `file_store.py` `FileEngagementStore.set_metadata`. -/
def setMetadata (m : EngagementMetadata) (write : Py Unit) : Proc Exn FileEngagementStore Unit := do
  let s ← Proc.get
  let before ← Proc.ofExcept (s.memory.metadata m.engagementId)
  mutate (·.setMetadata m) (fun _ _ => .ok (before ≠ some m)) write

/-- Source: `file_store.py` `FileEngagementStore.replace_metadata`. -/
def replaceMetadata (m : EngagementMetadata) (write : Py Unit) :
    Proc Exn FileEngagementStore Unit := do
  let s ← Proc.get
  let before ← Proc.ofExcept (s.memory.metadata m.engagementId)
  mutate (·.replaceMetadata m) (fun _ _ => .ok (before ≠ some m)) write

/-- Source: `file_store.py` `FileEngagementStore.append`. -/
def append (r : EvidenceRecord) (write : Py Unit) : Proc Exn FileEngagementStore Unit := do
  let s ← Proc.get
  let before ← Proc.ofExcept (s.memory.records r.engagementId)
  mutate (·.append r) (fun _ after => do
    let records ← after.records r.engagementId
    return ¬ List.Forall₂ EvidenceRecord.Same records before) write

/-- Source: `file_store.py` `FileEngagementStore.append_envelope`. -/
def appendEnvelope (e : EngagementEnvelope) (write : Py Unit) :
    Proc Exn FileEngagementStore Unit := do
  let s ← Proc.get
  let before ← Proc.ofExcept (s.memory.exportEnvelope e.engagementId)
  mutate (·.appendEnvelope e) (fun _ after => do
    let exported ← after.exportEnvelope e.engagementId
    return ¬ exported.Same before) write

end NightRecon.SharedCore.FileStore
