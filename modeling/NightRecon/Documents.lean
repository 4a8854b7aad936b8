import Mathlib.Data.Finset.Basic
import NightRecon.Exceptions
import NightRecon.Lib.Json

/-!
# Reading JSON documents

What the `from_dict` functions do with the members of a document before the constructors check
them: look a member up, and take it for a string, an integer or a tuple of strings.
-/

namespace NightRecon.Documents

open NightRecon.Lib
open NightRecon.Lib.Checks

/-- The keys of an object, when the value is one. -/
def keys? : Json → Option (Finset String)
  | .obj members => some (members.map (·.1)).toFinset
  | _ => none

/-- `payload[key]`. -/
def getItem (payload : Json) (key : String) : Py Json :=
  getOrRaise (payload.get? key) (keyError key)

@[simp] theorem getItem_eq_ok {payload : Json} {key : String} {value : Json} :
    getItem payload key = .ok value ↔ payload.get? key = some value := by
  simp [getItem]

/-- A value that equals `1`: a JSON `true` and the float `1.0` do too. -/
def equalsOne : Json → Bool
  | .int 1 => true
  | .bool true => true
  | .float literal => literal == "1.0"
  | _ => false

/-- The truth value of a JSON value. -/
def truthy : Json → Bool
  | .null => false
  | .bool b => b
  | .int n => n != 0
  | .float literal => literal != "0.0" && literal != "-0.0"
  | .str s => s != ""
  | .arr elems => !elems.isEmpty
  | .obj members => !members.isEmpty

def asStr : Json → Py String
  | .str s => .ok s
  | _ => .error (valueError "a string is required")

def asInt : Json → Py Int
  | .int n => .ok n
  | _ => .error (valueError "an integer is required")

@[simp] theorem asStr_eq_ok {j : Json} {s : String} : asStr j = .ok s ↔ j = .str s := by
  cases j <;> simp [asStr]

@[simp] theorem asInt_eq_ok {j : Json} {n : Int} : asInt j = .ok n ↔ j = .int n := by
  cases j <;> simp [asInt]

/-- The elements of a member that has to be a list. -/
def asArr (value : Option Json) (message : String) : Py (List Json) :=
  match value with
  | some (.arr elems) => .ok elems
  | _ => .error (valueError message)

/-- A string or `null`. -/
def asOptionalStr : Json → Py (Option String)
  | .null => .ok none
  | .str s => .ok (some s)
  | _ => .error (valueError "a string is required")

@[simp] theorem asOptionalStr_ofOption (s : Option String) :
    asOptionalStr (.ofOption s) = .ok s := by
  cases s <;> rfl

/-- `tuple(value)`: a string gives its characters and an object its keys. -/
def asTuple : Json → Py (List Json)
  | .arr elems => .ok elems
  | .str s => .ok (s.toList.map fun c => .str (String.ofList [c]))
  | .obj members => .ok (members.map fun m => .str m.1)
  | _ => .error (typeError "object is not iterable")

def asStrings (j : Json) : Py (List String) := do
  let elems ← asTuple j
  elems.mapM asStr

@[simp] theorem asStrings_strings (l : List String) : asStrings (.strings l) = .ok l := by
  simp only [asStrings, Json.strings, asTuple, ok_bind, mapM_eq_ok]
  rw [List.forall₂_map_left_iff]
  exact List.forall₂_same.mpr fun _ _ => rfl

end NightRecon.Documents
