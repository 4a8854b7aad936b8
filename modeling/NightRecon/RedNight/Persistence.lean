import NightRecon.Exceptions
import NightRecon.Lib.PurePosixPath

/-!
# Plans for the encrypted workspace

The contracts of `red_night_app/persistence.py`: the states of the selected partition, the
configuration of a workspace and the plan of one operator action.

* `RedPersistenceConfig` — a configuration that passed its checks;
* `planPersistenceAction` — the plan of an action, with its steps in order;
* `RedPersistenceStep.effect` — what a step does to the partition when it succeeds;
* `plan_applies` — the steps of an allowed plan apply one after another from its state and end in
  the state the action is for; `plan_canonical` — an allowed plan is the plan of its own fields.
-/

namespace NightRecon.RedNight.Persistence

open NightRecon.Lib.Checks
open NightRecon.Lib.PurePosixPath

/-! ## States, actions and steps -/

/-- Source: `persistence.py` `RedPersistenceState`. -/
inductive RedPersistenceState where
  | missing
  | uninitialized
  | luks2Locked
  | luks2Open
  | mounted
  deriving DecidableEq

/-- Source: `persistence.py` `RedPersistenceAction`. -/
inductive RedPersistenceAction where
  | provision
  | unlock
  | mount
  | safeClose
  deriving DecidableEq

/-- Source: `persistence.py` `RedPersistenceStep`. -/
inductive RedPersistenceStep where
  | luks2Format
  | luks2Open
  | filesystemCreate
  | filesystemMount
  | filesystemUnmount
  | luks2Close
  deriving DecidableEq

/-! ## The configuration -/

def luksTypeLuks2 : String := "luks2"

def workspaceFilesystem : String := "ext4"

def workspaceMapperName : String := "red-night-workspace"

def workspaceMountPoint : String := "/run/red-night-secure"

def allowedDevicePrefixes : List String := ["/dev/disk/by-partuuid/", "/dev/disk/by-id/"]

/-- `PurePosixPath(text).parts`: the root, when there is one, and the components. -/
def pathParts (text : String) : List String :=
  match text.toList with
  | '/' :: '/' :: '/' :: _ => "/" :: posixParts text
  | '/' :: '/' :: _ => "//" :: posixParts text
  | '/' :: _ => "/" :: posixParts text
  | _ => posixParts text

/-- The fields of a configuration, as they are given. -/
structure ConfigFields where
  device : String
  mapperName : String := workspaceMapperName
  mountPoint : String := workspaceMountPoint
  luksType : String := luksTypeLuks2
  filesystem : String := workspaceFilesystem
  autoDiscover : Bool := false
  autoFormat : Bool := false
  autoMount : Bool := false

/-- Source: `persistence.py` `RedPersistenceConfig.__post_init__`. -/
def ConfigFields.postInit (f : ConfigFields) : Py Unit := do
  raiseIf (f.device = "") (valueError "persistence device must be explicit")
  require (∃ p ∈ allowedDevicePrefixes, p.toList <+: f.device.toList)
    (valueError "persistence device must use /dev/disk/by-partuuid or /dev/disk/by-id")
  raiseIf (f.device ∈ allowedDevicePrefixes)
    (valueError "persistence device selector is incomplete")
  raiseIf ("/dev/disk/by-id/".toList <+: f.device.toList ∧ ¬ "-part".toList <:+: f.device.toList)
    (valueError "by-id persistence selector must name a partition")
  raiseIf (f.mapperName ≠ workspaceMapperName) (valueError "Red Live mapper name is fixed")
  raiseIf (f.mountPoint ≠ workspaceMountPoint)
    (valueError "Red Live workspace mount point is fixed")
  raiseIf ((pathParts f.mountPoint).take 2 ≠ ["/", "run"])
    (valueError "workspace mount point must remain under /run")
  raiseIf (f.luksType ≠ luksTypeLuks2)
    (valueError "Red Live persistent workspace must use LUKS2")
  raiseIf (f.filesystem ≠ workspaceFilesystem)
    (valueError "Red Live persistent workspace filesystem is fixed")
  raiseIf (f.autoDiscover || f.autoFormat || f.autoMount)
    (valueError "persistence automation must remain disabled")

/-- A configuration that passed its checks. -/
structure RedPersistenceConfig extends ConfigFields where
  accepted : toConfigFields.postInit.toOption.isSome = true

/-- Source: `persistence.py` `RedPersistenceConfig`. -/
def RedPersistenceConfig.create (f : ConfigFields) : Py RedPersistenceConfig := do
  let accepted ← attempt f.postInit
  .ok { f with accepted := accepted.down }

/-- The fields of a configuration pass the checks again. -/
theorem RedPersistenceConfig.create_self (config : RedPersistenceConfig) :
    RedPersistenceConfig.create config.toConfigFields = .ok config := by
  rw [RedPersistenceConfig.create, attempt_of config.accepted]
  rfl

/-! ## Plans -/

/-- Source: `persistence.py` `RedPersistencePlan`. -/
structure RedPersistencePlan where
  action : RedPersistenceAction
  fromState : RedPersistenceState
  allowed : Bool
  destructive : Bool
  requiresPassphrase : Bool
  steps : List RedPersistenceStep
  reason : String
  deriving DecidableEq

/-- The plan of a requested action, once the configuration passed its checks. -/
def planOf (current : RedPersistenceState) (requested : RedPersistenceAction)
    (destructiveConfirmation : Bool) : RedPersistencePlan :=
  if current = .missing then
    ⟨requested, current, false, false, false, [], "explicit-persistence-device-not-present"⟩
  else
    match requested with
    | .provision =>
        if current ≠ .uninitialized then
          ⟨requested, current, false, true, true, [],
            "provision-requires-uninitialized-partition"⟩
        else if destructiveConfirmation = false then
          ⟨requested, current, false, true, true, [],
            "explicit-destructive-confirmation-required"⟩
        else
          ⟨requested, current, true, true, true,
            [.luks2Format, .luks2Open, .filesystemCreate, .filesystemMount],
            "explicit-first-use-provisioning"⟩
    | .unlock =>
        if current ≠ .luks2Locked then
          ⟨requested, current, false, false, true, [], "unlock-requires-locked-luks2-workspace"⟩
        else
          ⟨requested, current, true, false, true, [.luks2Open], "explicit-workspace-unlock"⟩
    | .mount =>
        if current ≠ .luks2Open then
          ⟨requested, current, false, false, false, [], "mount-requires-open-luks2-mapping"⟩
        else
          ⟨requested, current, true, false, false, [.filesystemMount],
            "explicit-workspace-mount"⟩
    | .safeClose =>
        ⟨requested, current, true, false, false,
          match current with
          | .mounted => [.filesystemUnmount, .luks2Close]
          | .luks2Open => [.luks2Close]
          | _ => [],
          "safe-close-ordered"⟩

/-- Source: `persistence.py` `plan_persistence_action`.  The configuration is validated anew. -/
def planPersistenceAction (config : RedPersistenceConfig) (current : RedPersistenceState)
    (requested : RedPersistenceAction) (destructiveConfirmation : Bool) :
    Py RedPersistencePlan := do
  let _ ← RedPersistenceConfig.create config.toConfigFields
  .ok (planOf current requested destructiveConfirmation)

theorem planPersistenceAction_eq (config : RedPersistenceConfig) (current : RedPersistenceState)
    (requested : RedPersistenceAction) (destructiveConfirmation : Bool) :
    planPersistenceAction config current requested destructiveConfirmation =
      .ok (planOf current requested destructiveConfirmation) := by
  rw [planPersistenceAction, RedPersistenceConfig.create_self]
  rfl

/-- **An allowed plan is the plan of its own fields.** -/
theorem plan_canonical {current : RedPersistenceState} {requested : RedPersistenceAction}
    {destructiveConfirmation : Bool}
    (h : (planOf current requested destructiveConfirmation).allowed = true) :
    let plan := planOf current requested destructiveConfirmation
    planOf plan.fromState plan.action plan.destructive = plan := by
  cases destructiveConfirmation <;> cases requested <;> cases current <;>
    first
      | rfl
      | exact absurd h Bool.false_ne_true

/-! ## What the steps do -/

/-- What a step does to the partition when it succeeds; a step does not apply everywhere. -/
def RedPersistenceStep.effect :
    RedPersistenceStep → RedPersistenceState → Option RedPersistenceState
  | .luks2Format, .uninitialized => some .luks2Locked
  | .luks2Format, .luks2Locked => some .luks2Locked
  | .luks2Open, .luks2Locked => some .luks2Open
  | .filesystemCreate, .luks2Open => some .luks2Open
  | .filesystemMount, .luks2Open => some .mounted
  | .filesystemUnmount, .mounted => some .luks2Open
  | .luks2Close, .luks2Open => some .luks2Locked
  | _, _ => none

/-- The state an action is for, from the state it starts in. -/
def RedPersistenceAction.goal (current : RedPersistenceState) :
    RedPersistenceAction → RedPersistenceState
  | .provision => .mounted
  | .unlock => .luks2Open
  | .mount => .mounted
  | .safeClose => if current = .uninitialized then .uninitialized else .luks2Locked

/-- **The steps of an allowed plan** apply one after another and end where the action leads. -/
theorem plan_applies {current : RedPersistenceState} {requested : RedPersistenceAction}
    {destructiveConfirmation : Bool}
    (h : (planOf current requested destructiveConfirmation).allowed = true) :
    (planOf current requested destructiveConfirmation).steps.foldlM
        (fun state step => RedPersistenceStep.effect step state) current =
      some (requested.goal current) := by
  cases destructiveConfirmation <;> cases requested <;> cases current <;>
    first
      | rfl
      | exact absurd h Bool.false_ne_true

/-- A plan that is not allowed has no step. -/
theorem steps_of_not_allowed {current : RedPersistenceState} {requested : RedPersistenceAction}
    {destructiveConfirmation : Bool}
    (h : (planOf current requested destructiveConfirmation).allowed = false) :
    (planOf current requested destructiveConfirmation).steps = [] := by
  cases destructiveConfirmation <;> cases requested <;> cases current <;>
    first
      | rfl
      | exact absurd h.symm Bool.false_ne_true

end NightRecon.RedNight.Persistence
