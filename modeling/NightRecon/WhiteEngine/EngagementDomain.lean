import NightRecon.WhiteEngine.Reading

/-!
# Data handling policies

`nightrecon_white_engine/engagement_domain.py` `DataHandlingPolicy`: how the evidence of an
engagement is classified, how long it is kept and whether it may be exported.

* `Classification` — the four classifications, ordered by `Classification.rank`;
* `DataHandlingPolicy`, `PolicyArgs.make` — the policy and its constructor, `make_args`;
* `DataHandlingPolicy.fromDict_of` — a policy is read from any document with its members;
* `DataHandlingPolicy.eq_of_normal_eq` — its document binds it.
-/

namespace NightRecon.WhiteEngine.EngagementDomain

open NightRecon.Lib
open NightRecon.Lib.Checks
open NightRecon.Lib.Json
open NightRecon.Lib.Text
open NightRecon.Documents
open NightRecon.DocumentMembers
open NightRecon.WhiteEngine.Reading

/-- The members of `_VALID_CLASSIFICATIONS`. -/
inductive Classification where
  | «public»
  | internal
  | confidential
  | restricted
  deriving DecidableEq

namespace Classification

def text : Classification → String
  | «public» => "public"
  | internal => "internal"
  | confidential => "confidential"
  | restricted => "restricted"

def ofText (s : String) : Option Classification :=
  [«public», internal, confidential, restricted].find? fun c => c.text = s

/-- Source: `evidence_custody.py` `_CLASSIFICATION_RANK`. -/
def rank : Classification → Nat
  | «public» => 0
  | internal => 1
  | confidential => 2
  | restricted => 3

@[simp] theorem ofText_text (c : Classification) : ofText c.text = some c := by
  cases c <;> rfl

theorem text_injective {c c' : Classification} (h : c.text = c'.text) : c = c' := by
  have hsome := congrArg ofText h
  rw [ofText_text, ofText_text] at hsome
  exact Option.some.inj hsome

theorem text_of_ofText {s : String} {c : Classification} (h : ofText s = some c) : c.text = s := by
  have hfound := List.find?_some h
  exact of_decide_eq_true hfound

end Classification

/-- The arguments of the policy constructor. -/
structure PolicyArgs where
  classification : String
  retentionDays : Int
  exportAllowed : Bool
  notes : Option String
  deriving DecidableEq

/-- Source: `engagement_domain.py` `DataHandlingPolicy`. -/
structure DataHandlingPolicy where
  classification : Classification
  retentionDays : Nat
  exportAllowed : Bool
  notes : Option String
  retentionDays_bounds : 1 ≤ retentionDays ∧ retentionDays ≤ 3650
  notes_required : ∀ s ∈ notes, requiredText s

/-- Source: `engagement_domain.py` `DataHandlingPolicy.__post_init__`. -/
def PolicyArgs.make (a : PolicyArgs) : Py DataHandlingPolicy := do
  let classification ← getOrRaise (Classification.ofText a.classification)
    (valueError "unsupported data classification")
  let h₁ ← prove (1 ≤ a.retentionDays.toNat ∧ a.retentionDays.toNat ≤ 3650)
    (valueError "retention_days must be between 1 and 3650")
  let h₂ ← prove (∀ s ∈ a.notes, requiredText s)
    (valueError "notes must be a nonblank, trimmed string")
  return ⟨classification, a.retentionDays.toNat, a.exportAllowed, a.notes, h₁.down, h₂.down⟩

namespace DataHandlingPolicy

/-- The arguments a policy was built from. -/
@[reducible] def args (p : DataHandlingPolicy) : PolicyArgs :=
  ⟨p.classification.text, p.retentionDays, p.exportAllowed, p.notes⟩

theorem make_args (p : DataHandlingPolicy) : p.args.make = .ok p := by
  unfold PolicyArgs.make
  simp only [Classification.ofText_text, getOrRaise_some, ok_bind, Int.toNat_natCast]
  rw [prove_of p.retentionDays_bounds, ok_bind, prove_of p.notes_required, ok_bind]
  rfl

theorem args_injective {p p' : DataHandlingPolicy} (h : p.args = p'.args) : p = p' := by
  have hmake := p.make_args
  rw [h, p'.make_args] at hmake
  exact (Except.ok.inj hmake).symm

/-- Policies are compared by their fields. -/
instance : DecidableEq DataHandlingPolicy := fun p p' =>
  decidable_of_iff (p.args = p'.args) ⟨args_injective, fun h => h ▸ rfl⟩

/-- The members of a policy's document. -/
def members (p : DataHandlingPolicy) : List (String × Json) :=
  [("classification", .str p.classification.text),
    ("retention_days", .int p.retentionDays),
    ("export_allowed", .bool p.exportAllowed),
    ("notes", .ofOption p.notes)]

/-- Source: `engagement_domain.py` `DataHandlingPolicy.to_dict`. -/
def toDict (p : DataHandlingPolicy) : Json := .obj p.members

/-- The keys of a policy's document. -/
def required : List String := ["classification", "retention_days", "export_allowed", "notes"]

/-- The arguments `from_dict` hands to the constructor. -/
def readArgs (doc : Json) : Py PolicyArgs := do
  let get := getItem doc
  return {
    classification := ← get "classification" >>=
      readStr (valueError "unsupported data classification")
    retentionDays := ← get "retention_days" >>=
      readInt (valueError "retention_days must be between 1 and 3650")
    exportAllowed := ← get "export_allowed" >>=
      readBool (valueError "export_allowed must be boolean")
    notes := ← get "notes" >>= readOptionalText .valueError "notes" }

/-- Source: `engagement_domain.py` `DataHandlingPolicy.from_dict`. -/
def fromDict (doc : Json) : Py DataHandlingPolicy := do
  requireKeys doc required (valueError "data handling policy schema is not supported")
  let args ← readArgs doc
  args.make

theorem required_nodup : required.Nodup := by decide

theorem valid_toDict (p : DataHandlingPolicy) : valid p.toDict := by
  refine ⟨required_nodup, ?_⟩
  simp only [members, membersValid, valid, valid_ofOption, and_self]

theorem normalMembers_members (p : DataHandlingPolicy) : normalMembers p.members = p.members := by
  simp only [normalMembers, members, List.map_cons, List.map_nil, normal, normal_ofOption]

theorem readArgs_of {doc : Json} {p : DataHandlingPolicy} (h : Has doc p.members) :
    readArgs doc = .ok p.args := by
  simp only [members, has_cons, has_nil, and_true] at h
  obtain ⟨h₁, h₂, h₃, h₄⟩ := h
  simp only [readArgs, getItem, h₁, h₂, h₃, h₄, getOrRaise_some, ok_bind, readStr_str, readInt_int,
    readBool_bool, readOptionalText_ofOption, pure_eq_ok]

/-- **A policy is read from any document with its members.** -/
theorem fromDict_of {doc : Json} {p : DataHandlingPolicy}
    (h : HasExactly doc (normalMembers p.members)) : fromDict doc = .ok p := by
  have hkeys : p.members.map (·.1) = required := rfl
  rw [normalMembers_members] at h
  rw [fromDict, requireKeys_of h hkeys, ok_bind, readArgs_of h.has, ok_bind, make_args]

/-- **The document of a policy binds it.** -/
theorem eq_of_normal_eq {p p' : DataHandlingPolicy} (h : normal p.toDict = normal p'.toDict) :
    p = p' := by
  have hread := fromDict_of (hasExactly_normal p.valid_toDict.1)
  rw [← toDict, h, toDict, fromDict_of (hasExactly_normal p'.valid_toDict.1)] at hread
  exact (Except.ok.inj hread).symm

end DataHandlingPolicy

end NightRecon.WhiteEngine.EngagementDomain
