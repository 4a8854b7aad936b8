import NightRecon.Lib.Chronicle
import NightRecon.SharedCore.Contracts
import NightRecon.WhiteEngine.Reading

/-!
# Event histories

`audit_log.py` and `evidence_custody.py` keep histories of the same make: every event carries
details, its position and the fingerprint of the event before it, and the constructor of the
history walks along the chain.  The two modules differ in their error class and in the words of
their messages, which are parameters here.

* `Details` — details sorted by key, with keys that differ and do not look like secrets, built by
  `checkDetails`;
* `Entry` — what the walk looks at in an event; `checkLink` — one turn of the walk;
* `chronological_of_checkLink` — a history that passes is in order of time.
-/

namespace NightRecon.WhiteEngine.History

open NightRecon.Lib
open NightRecon.Lib.Checks
open NightRecon.Lib.Chronicle
open NightRecon.Lib.Text
open NightRecon.SharedCore.Contracts (isSecretKey)
open NightRecon.WhiteEngine.Fields

/-! ## Codes -/

/-- `_EVENT_TYPE_PATTERN.fullmatch` and `_REASON_CODE_PATTERN.fullmatch`. -/
def isCode (s : String) : Bool :=
  match s.toList with
  | [] => false
  | c :: cs =>
      isLower c && cs.length ≤ 127 &&
        cs.all fun c => isLower c || isDigit c || c == '_' || c == '.' || c == '-'

/-- A code is nonblank and trimmed. -/
theorem requiredText_of_isCode {s : String} (h : isCode s = true) : requiredText s := by
  unfold isCode at h
  split at h
  · exact absurd h Bool.false_ne_true
  · next c cs hs =>
    simp only [Bool.and_eq_true, List.all_eq_true, Bool.or_eq_true, beq_iff_eq] at h
    obtain ⟨⟨hc, -⟩, hcs⟩ := h
    have hletter : ∀ d, isLower d = true → isSpace d = false :=
      fun d hd => isSpace_of_isAlnum (by simp [isAlnum, hd])
    apply requiredText_of_noSpace
    · rintro rfl
      exact absurd hs (List.cons_ne_nil _ _).symm
    · intro d hd
      rw [hs] at hd
      rcases List.mem_cons.mp hd with rfl | hd
      · exact hletter _ hc
      · rcases hcs d hd with (((hd | hd) | rfl) | rfl) | rfl
        · exact hletter _ hd
        · exact isSpace_of_isAlnum (by simp [isAlnum, hd])
        · rfl
        · rfl
        · rfl

/-- The check of a code. -/
def checkCode (cls : ExnClass) (value field : String) : Py (PLift (isCode value = true)) := do
  let _ ← checkText cls value field
  prove (isCode value = true) ⟨cls, field ++ " is invalid"⟩

theorem checkCode_of {cls : ExnClass} {value field : String} (h : isCode value = true) :
    checkCode cls value field = .ok ⟨h⟩ := by
  rw [checkCode, checkText_of (requiredText_of_isCode h), ok_bind, prove_of h]

/-! ## Optional fields -/

/-- The check of an optional identifier. -/
def checkOptionalIdentifier (cls : ExnClass) (value : Option String) (field : String) :
    Py (PLift (∀ v ∈ value, isIdentifier v = true)) :=
  match value with
  | none => .ok ⟨noIdentifier⟩
  | some v => do
      let h ← checkIdentifier cls v field
      return ⟨identifier_of_some h⟩

theorem checkOptionalIdentifier_of {cls : ExnClass} {value : Option String} {field : String}
    (h : ∀ v ∈ value, isIdentifier v = true) :
    checkOptionalIdentifier cls value field = .ok ⟨h⟩ := by
  cases value with
  | none => rfl
  | some v =>
    rw [checkOptionalIdentifier, checkIdentifier_of (h v rfl), ok_bind]
    rfl

/-- The check of an optional fingerprint. -/
def checkOptionalSha256 (cls : ExnClass) (value : Option String) (field : String) :
    Py (PLift (∀ f ∈ value, Sha256.isSha256Hex f)) :=
  match value with
  | none => .ok ⟨noSha256⟩
  | some f => do
      let h ← checkSha256 cls f field
      return ⟨sha256_of_some h⟩

theorem checkOptionalSha256_of {cls : ExnClass} {value : Option String} {field : String}
    (h : ∀ f ∈ value, Sha256.isSha256Hex f) : checkOptionalSha256 cls value field = .ok ⟨h⟩ := by
  cases value with
  | none => rfl
  | some f =>
    rw [checkOptionalSha256, checkSha256_of (h f rfl), ok_bind]
    rfl

/-! ## Details -/

/-- What is required of one detail. -/
def isDetail (d : String × String) : Prop :=
  requiredText d.1 ∧ requiredText d.2 ∧ isSecretKey d.1 = false

/-- The details of an event. -/
structure Details where
  pairs : List (String × String)
  sorted : sortedBy Prod.fst pairs = pairs
  nodup : (pairs.map Prod.fst).Nodup
  valid : ∀ d ∈ pairs, isDetail d

/-- The checks of one detail; a detail is a document of one member for `_reject_secret_keys`. -/
def checkDetail (cls : ExnClass) (noun : String) (d : String × String) : Py (PLift (isDetail d)) := do
  let h₁ ← checkText cls d.1 (noun ++ " detail key")
  let h₂ ← checkText cls d.2 (noun ++ " detail value")
  let h₃ ← prove (isSecretKey d.1 = false)
    ⟨cls, "secret-like " ++ noun ++ " field is not allowed: $." ++ d.1⟩
  return ⟨h₁.down, h₂.down, h₃.down⟩

/-- The checks of the details, which are sorted as pairs; their keys turn out to be distinct, so
the order of the keys is the order of the pairs. -/
def checkDetails (cls : ExnClass) (noun : String) (details : List (String × String)) :
    Py Details := do
  let normalized := sortedBy Prod.fst details
  let h₁ ← prove (normalized.map Prod.fst).Nodup ⟨cls, noun ++ " detail keys must be unique"⟩
  let h₂ ← proveAll (checkDetail cls noun) normalized
  return ⟨normalized, sortedBy_eq_self (sortedBy_pairwise _ _), h₁.down, h₂.down⟩

namespace Details

theorem ext_pairs {d d' : Details} (h : d.pairs = d'.pairs) : d = d' := by
  obtain ⟨l, _, _, _⟩ := d
  obtain ⟨l', _, _, _⟩ := d'
  subst h
  rfl

/-- Details are rebuilt from their own pairs. -/
theorem check_pairs (d : Details) (cls : ExnClass) (noun : String) :
    checkDetails cls noun d.pairs = .ok d := by
  have hcheck : ∀ (p : String × String) (h : isDetail p), checkDetail cls noun p = .ok ⟨h⟩ := by
    intro p h
    rw [checkDetail, checkText_of h.1, ok_bind, checkText_of h.2.1, ok_bind, prove_of h.2.2, ok_bind]
    rfl
  unfold checkDetails
  dsimp only
  rw [prove_of (d.sorted.symm ▸ d.nodup), ok_bind, proveAll_of hcheck (d.sorted.symm ▸ d.valid),
    ok_bind, pure_eq_ok, Except.ok.injEq]
  exact ext_pairs d.sorted

/-- `detail`: the value of a key. -/
def get (d : Details) (key : String) : Option String :=
  (d.pairs.find? fun p => p.1 = key).map (·.2)

end Details

/-! ## The chain -/

/-- What the constructor of a history looks at in an event. -/
structure Entry where
  ownerId : String
  engagementId : String
  sequence : Nat
  previous : Option String
  fingerprint : String
  time : Int

/-- What the walk keeps: the position and the event before. -/
structure Link where
  index : Nat
  previous : Option Entry

def Link.start : Link := ⟨0, none⟩

/-- The words in the messages of a history: what an event is called, and what owns it. -/
structure Words where
  cls : ExnClass
  noun : String
  owner : String

/-- One turn of the walk along the chain.
Source: `audit_log.py` `AuditTrail.__post_init__`, `evidence_custody.py`
`EvidenceCustodyCase._validate_events`. -/
def checkLink (w : Words) (ownerId engagementId : String) (c : Link) (e : Entry) : Py Link := do
  raiseIf (e.ownerId ≠ ownerId) ⟨w.cls, w.noun ++ " event belongs to another " ++ w.owner⟩
  raiseIf (e.engagementId ≠ engagementId)
    ⟨w.cls, w.noun ++ " event belongs to another engagement"⟩
  raiseIf (e.sequence ≠ c.index) ⟨w.cls, w.noun ++ " event sequence is not contiguous"⟩
  raiseIf (e.previous ≠ c.previous.map Entry.fingerprint)
    ⟨w.cls, w.noun ++ " event chain verification failed"⟩
  raiseIf (∃ p ∈ c.previous, e.time < p.time)
    ⟨w.cls, w.noun ++ " events are not chronologically ordered"⟩
  return ⟨c.index + 1, some e⟩

/-- What one turn of the walk says of an event. -/
theorem checkLink_eq_ok {w : Words} {ownerId engagementId : String} {c c' : Link} {e : Entry}
    (h : checkLink w ownerId engagementId c e = .ok c') :
    c' = ⟨c.index + 1, some e⟩ ∧ ∀ p ∈ c.previous, p.time ≤ e.time := by
  simp only [checkLink, bind_eq_ok, raiseIf_eq_ok, pure_eq_ok, Except.ok.injEq] at h
  obtain ⟨-, -, -, -, -, -, -, -, -, horder, rfl⟩ := h
  refine ⟨rfl, ?_⟩
  intro p hp
  exact not_lt.mp fun hlt => horder ⟨p, hp, hlt⟩

/-- The walk so far: its entries are in order of time, and the last one is kept. -/
structure Walked (done : List Entry) (c : Link) : Prop where
  chronological : Chronological Entry.time done
  last : c.previous = done.getLast?

/-- **A history that passes the walk is in order of time.** -/
theorem Walked.checkLink {w : Words} {ownerId engagementId : String} {done : List Entry}
    {c c' : Link} {e : Entry} (hdone : Walked done c)
    (h : checkLink w ownerId engagementId c e = .ok c') : Walked (done ++ [e]) c' := by
  obtain ⟨rfl, horder⟩ := checkLink_eq_ok h
  refine ⟨?_, List.getLast?_concat.symm⟩
  apply chronological_concat hdone.chronological
  intro b hb
  rcases List.eq_nil_or_concat' done with rfl | ⟨front, p, rfl⟩
  · exact absurd hb List.not_mem_nil
  · -- the last entry is the latest, and the new one is not earlier
    have hlast : p ∈ c.previous := by
      rw [hdone.last, List.getLast?_concat]
      exact rfl
    rcases List.mem_append.mp hb with hb | hb
    · exact le_trans (le_last hdone.chronological b hb) (horder p hlast)
    · rw [List.mem_singleton.mp hb]
      exact horder p hlast

end NightRecon.WhiteEngine.History
