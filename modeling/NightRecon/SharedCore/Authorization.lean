import NightRecon.Exceptions
import NightRecon.Lib.Ipaddress

/-!
# Targets and scopes

`nightrecon_shared_core/authorization.py`: a target is an IP address, a CIDR network or a host
name; a scope is a list of rules of the same three kinds.

* `parseTarget` — classification and normalisation of a target text;
* `Scope.fromValues`, `Scope.isAuthorized`, `matchesRule` — a scope and its matching rule.
-/

namespace NightRecon.SharedCore.Authorization

open NightRecon.Lib.Checks
open NightRecon.Lib.Text
open NightRecon.Lib.Ipaddress

inductive TargetType where
  | ipv4
  | ipv6
  | cidr
  | hostname
  deriving DecidableEq

structure Target where
  value : String
  targetType : TargetType
  deriving DecidableEq

/-- One label of a host name: 1 to 63 letters, digits and hyphens, no hyphen at either end. -/
def isHostLabel (l : List Char) : Bool :=
  1 ≤ l.length && l.length ≤ 63 && l.all (fun c => isAlnum c || c == '-') &&
    l.head? != some '-' && l.getLast? != some '-'

/-- `_HOSTNAME_PATTERN.fullmatch`. -/
def isHostname (s : String) : Bool :=
  1 ≤ s.toList.length && s.toList.length ≤ 253 && (s.toList.splitOn '.').all isHostLabel

/-- Source: `authorization.py` `parse_target`. -/
def parseTarget (value : String) : Py Target :=
  let value := strip value
  if value = "" then .error (valueError "Target cannot be empty.")
  else if '/' ∈ value.toList then
    match ipNetwork value with
    | some _ => .ok ⟨value, .cidr⟩
    | none => .error (valueError ("Invalid CIDR target: " ++ value))
  else
    match ipAddress value with
    | some address => .ok ⟨value, if address.version = .v4 then .ipv4 else .ipv6⟩
    | none =>
        if isHostname value then .ok ⟨asciiLower value, .hostname⟩
        else .error (valueError ("Invalid target: " ++ value))

/-- Source: `authorization.py` `Scope`. -/
structure Scope where
  rules : List Target
  deriving DecidableEq

/-- Source: `authorization.py` `Scope.from_values`. -/
def Scope.fromValues (values : List String) : Py Scope := do
  raiseIf (values = []) (valueError "At least one scope rule is required.")
  let rules ← values.mapM parseTarget
  return ⟨rules⟩

/-- Whether one rule authorizes a target.  A value that does not parse matches nothing; the values
of targets built by `parseTarget` always parse.
Source: `authorization.py` `Scope._matches`. -/
def matchesRule (rule target : Target) : Bool :=
  match target.targetType with
  | .hostname => rule.targetType == .hostname && rule.value == target.value
  | .ipv4 | .ipv6 =>
      match ipAddress target.value with
      | none => false
      | some targetIp =>
          match rule.targetType with
          | .ipv4 | .ipv6 => ipAddress rule.value == some targetIp
          | .cidr =>
              match ipNetwork rule.value with
              | some network => decide (network.contains targetIp)
              | none => false
          | .hostname => false
  | .cidr =>
      match ipNetwork target.value with
      | none => false
      | some targetNetwork =>
          if rule.targetType ≠ .cidr then false
          else
            match ipNetwork rule.value with
            | none => false
            | some ruleNetwork =>
                if ruleNetwork.version ≠ targetNetwork.version then false
                else decide (targetNetwork.subnetOf ruleNetwork)

/-- Source: `authorization.py` `Scope.is_authorized`. -/
def Scope.isAuthorized (scope : Scope) (target : Target) : Bool :=
  scope.rules.any fun rule => matchesRule rule target

theorem Scope.isAuthorized_iff {scope : Scope} {target : Target} :
    scope.isAuthorized target = true ↔ ∃ rule ∈ scope.rules, matchesRule rule target = true := by
  simp [Scope.isAuthorized]

theorem Scope.fromValues_eq_ok {values : List String} {scope : Scope} :
    Scope.fromValues values = .ok scope ↔
      values ≠ [] ∧ List.Forall₂ (fun v t => parseTarget v = .ok t) values scope.rules := by
  unfold Scope.fromValues
  rw [raiseIf_bind_eq_ok, bind_eq_ok]
  simp only [mapM_eq_ok, pure_eq_ok, Except.ok.injEq]
  constructor
  · rintro ⟨hne, rules, hrules, rfl⟩
    exact ⟨hne, hrules⟩
  · rintro ⟨hne, hrules⟩
    exact ⟨hne, scope.rules, hrules, rfl⟩

end NightRecon.SharedCore.Authorization
