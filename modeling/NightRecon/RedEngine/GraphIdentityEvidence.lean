import NightRecon.RedEngine.GraphBuilder

/-!
# Identity evidence

The records of `nightrecon_red_engine/graph_identity_evidence.py` that identity providers build, and
the opaque keys of directory objects of `red_directory_import.py`.

* `IdentityEvidence`, `GroupMembershipEvidence`, `RoleEvidence`, `IdentityRelationshipEvidence` —
  the records; each has a `make` with the checks of its constructor;
* `DirectoryKind`, `directoryNaturalKey` — the key of one object;
* `sortedByKeys` — `sorted` with a key that is a tuple of texts.
-/

namespace NightRecon.RedEngine.GraphIdentityEvidence

open NightRecon.Lib.Checks
open NightRecon.Lib.Text
open NightRecon.RedEngine.GraphBuilder

/-! ## Records -/

/-- Source: `graph_identity_evidence.py` `_require`. -/
def requireNonblank (value name : String) : Py Unit :=
  raiseIf (strip value = "") (valueError (name ++ " must not be empty"))

/-- Source: `graph_identity_evidence.py` `IdentityEvidence`. -/
structure IdentityEvidence where
  naturalKey : String
  label : String
  sourceId : String
  identityType : String
  properties : List (String × String)

/-- Source: `graph_identity_evidence.py` `IdentityEvidence.__post_init__`. -/
def IdentityEvidence.make (naturalKey label sourceId identityType : String)
    (properties : List (String × String)) : Py IdentityEvidence := do
  requireNonblank naturalKey "natural_key"
  requireNonblank label "label"
  requireNonblank sourceId "source_id"
  return ⟨naturalKey, label, sourceId, identityType, properties⟩

/-- Source: `graph_identity_evidence.py` `RoleEvidence`. -/
structure RoleEvidence where
  naturalKey : String
  label : String
  sourceId : String
  properties : List (String × String)

/-- Source: `graph_identity_evidence.py` `RoleEvidence.__post_init__`. -/
def RoleEvidence.make (naturalKey label sourceId : String) (properties : List (String × String)) :
    Py RoleEvidence := do
  requireNonblank naturalKey "natural_key"
  requireNonblank label "label"
  requireNonblank sourceId "source_id"
  return ⟨naturalKey, label, sourceId, properties⟩

/-- A member of a group is an identity or a group.
Source: `graph_identity_evidence.py` `GroupMembershipEvidence`. -/
structure GroupMembershipEvidence where
  memberKind : GraphNodeKind
  memberKey : String
  groupKey : String
  sourceId : String
  evidenceState : GraphEvidenceState
  memberKind_allowed : memberKind = .identity ∨ memberKind = .group

/-- Source: `graph_identity_evidence.py` `GroupMembershipEvidence.__post_init__`. -/
def GroupMembershipEvidence.make (memberKind : GraphNodeKind)
    (memberKey groupKey sourceId : String) : Py GroupMembershipEvidence := do
  let hkind ← prove (memberKind = .identity ∨ memberKind = .group)
    (valueError "group membership members must be identity or group nodes")
  requireNonblank memberKey "member_key"
  requireNonblank groupKey "group_key"
  requireNonblank sourceId "source_id"
  return ⟨memberKind, memberKey, groupKey, sourceId, .observed, hkind.down⟩

def relationshipTypes : List String :=
  ["owns", "assigned-role", "manages", "delegates-to", "domain-trust"]

/-- No identity is related to itself.
Source: `graph_identity_evidence.py` `IdentityRelationshipEvidence`. -/
structure IdentityRelationshipEvidence where
  sourceKind : GraphNodeKind
  sourceKey : String
  targetKind : GraphNodeKind
  targetKey : String
  relationship : String
  sourceId : String
  evidenceState : GraphEvidenceState
  properties : List (String × String)
  not_self : ¬ (sourceKind = targetKind ∧ sourceKey = targetKey)

/-- Source: `graph_identity_evidence.py` `IdentityRelationshipEvidence.__post_init__`. -/
def IdentityRelationshipEvidence.make (sourceKind : GraphNodeKind) (sourceKey : String)
    (targetKind : GraphNodeKind) (targetKey relationship sourceId : String)
    (properties : List (String × String)) : Py IdentityRelationshipEvidence := do
  raiseIf (sourceKind ≠ .identity ∧ sourceKind ≠ .group)
    (valueError "identity relationship source must be identity or group")
  raiseIf (targetKind ≠ .identity ∧ targetKind ≠ .group ∧ targetKind ≠ .permission)
    (valueError "identity relationship target must be identity, group, or permission")
  requireNonblank sourceKey "source_key"
  requireNonblank targetKey "target_key"
  requireNonblank relationship "relationship"
  raiseIf (asciiLower (strip relationship) ∉ relationshipTypes)
    (valueError "identity relationship type is unsupported")
  let hself ← prove (¬ (sourceKind = targetKind ∧ sourceKey = targetKey))
    (valueError "identity relationships cannot be self-referential")
  requireNonblank sourceId "source_id"
  return ⟨sourceKind, sourceKey, targetKind, targetKey, relationship, sourceId, .observed,
    properties, hself.down⟩

/-- What tells two relationships of a collection apart. -/
def IdentityRelationshipEvidence.key (item : IdentityRelationshipEvidence) :
    GraphNodeKind × String × GraphNodeKind × String × String :=
  (item.sourceKind, item.sourceKey, item.targetKind, item.targetKey, item.relationship)

/-- The part of a bundle that identity providers fill.
Source: `graph_identity_evidence.py` `IdentityEvidenceBundle`. -/
structure IdentityEvidenceBundle where
  identities : List IdentityEvidence
  memberships : List GroupMembershipEvidence
  roles : List RoleEvidence
  relationships : List IdentityRelationshipEvidence

/-! ## Keys -/

/-- The kinds of directory objects. -/
inductive DirectoryKind where
  | user
  | computer
  | service
  | application
  | domain
  | role
  | group
  deriving DecidableEq

def DirectoryKind.value : DirectoryKind → String
  | .user => "user"
  | .computer => "computer"
  | .service => "service"
  | .application => "application"
  | .domain => "domain"
  | .role => "role"
  | .group => "group"

/-- The directories objects come from. -/
inductive DirectoryNamespace where
  | ad
  | entra

def DirectoryNamespace.value : DirectoryNamespace → String
  | .ad => "ad"
  | .entra => "entra"

/-- Source: `red_directory_import.py` `directory_natural_key`. -/
def directoryNaturalKey (kind : DirectoryKind) (dn : String) (ns : DirectoryNamespace) :
    Py String := do
  raiseIf (¬ requiredText dn) (valueError "directory export requires a nonblank, trimmed dn")
  return ns.value ++ ":" ++ kind.value ++ ":" ++ NightRecon.Lib.Sha256.hexOf dn.toList

/-! ## Order -/

/-- `sorted` with a key that is a tuple of texts. -/
def sortedByKeys {α : Type} (key : α → List String) (l : List α) : List α :=
  l.insertionSort fun a b => key a ≤ key b

theorem sortedByKeys_perm {α : Type} (key : α → List String) (l : List α) :
    (sortedByKeys key l).Perm l := List.perm_insertionSort _ l

/-- The relationships of a collection in the order in which they are returned. -/
def sortedRelationships (l : List IdentityRelationshipEvidence) :
    List IdentityRelationshipEvidence :=
  sortedByKeys (fun item => [item.relationship, item.sourceKind.value, item.sourceKey,
    item.targetKind.value, item.targetKey]) l

end NightRecon.RedEngine.GraphIdentityEvidence
