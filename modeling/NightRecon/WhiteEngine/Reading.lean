import NightRecon.DocumentMembers
import NightRecon.WhiteEngine.Fields

/-!
# Reading the white-engine documents

The `from_dict` functions of the white engine check the keys of a document and hand its members to
a constructor, which raises its own error for a member of a wrong kind.

* `SchemaVersion` — what a schema check takes for `1`;
* `requireKeys` — the check of the keys, `requireKeys_of`;
* `readStr`, `readText`, `readInt`, `readBool`, `readList` — one member taken for a value of a kind;
* `verify` — the comparison with a computed fingerprint, `verify_eq_ok`;
* `readPair`, `readPairs` — the details of an event; `readPairs_pairs`.
-/

namespace NightRecon.WhiteEngine.Reading

open NightRecon.Lib
open NightRecon.Lib.Checks
open NightRecon.Lib.Json
open NightRecon.Documents
open NightRecon.DocumentMembers

/-! ## Schema versions -/

/-- A value that `schema_version != 1` lets pass: the integer, `True` or the float. -/
inductive SchemaVersion where
  | int
  | bool
  | float
  deriving DecidableEq

namespace SchemaVersion

def toJson : SchemaVersion → Json
  | .int => .int 1
  | .bool => .bool true
  | .float => .float "1.0"

/-- The check `schema_version != 1`. -/
def ofJson (e : Exn) : Json → Py SchemaVersion
  | .int 1 => .ok .int
  | .bool true => .ok .bool
  | .float "1.0" => .ok .float
  | _ => .error e

@[simp] theorem ofJson_toJson (e : Exn) (v : SchemaVersion) : ofJson e v.toJson = .ok v := by
  cases v <;> rfl

theorem toJson_injective {v v' : SchemaVersion} (h : v.toJson = v'.toJson) : v = v' := by
  have hread := ofJson_toJson (valueError "") v
  rw [h, ofJson_toJson] at hread
  exact (Except.ok.inj hread).symm

@[simp] theorem valid_toJson (v : SchemaVersion) : valid v.toJson := by
  cases v with
  | int => exact trivial
  | bool => exact trivial
  | float => exact (rfl : isFloatText "1.0")

@[simp] theorem normal_toJson (v : SchemaVersion) : normal v.toJson = v.toJson := by
  cases v <;> rfl

end SchemaVersion

/-! ## Members -/

/-- `set(payload) != required`, for a payload that has to be an object. -/
def requireKeys (doc : Json) (required : List String) (e : Exn) : Py Unit :=
  require (keys? doc = some required.toFinset) e

theorem requireKeys_of {doc : Json} {members : List (String × Json)} {required : List String}
    {e : Exn} (h : HasExactly doc members) (hkeys : members.map (·.1) = required) :
    requireKeys doc required e = .ok () :=
  require_of (hkeys ▸ h.keys)

/-- A string. -/
def readStr (e : Exn) : Json → Py String
  | .str s => .ok s
  | _ => .error e

/-- A string, as the checks of texts take it. -/
def readText (cls : ExnClass) (field : String) : Json → Py String :=
  readStr ⟨cls, field ++ " must be a nonblank, trimmed string"⟩

/-- A string or `null`. -/
def readOptionalText (cls : ExnClass) (field : String) : Json → Py (Option String)
  | .null => .ok none
  | j => do
      let s ← readText cls field j
      return some s

/-- An integer that is no boolean. -/
def readInt (e : Exn) : Json → Py Int
  | .int n => .ok n
  | _ => .error e

def readBool (e : Exn) : Json → Py Bool
  | .bool b => .ok b
  | _ => .error e

def readList (e : Exn) : Json → Py (List Json)
  | .arr elems => .ok elems
  | _ => .error e

@[simp] theorem readStr_str (e : Exn) (s : String) : readStr e (.str s) = .ok s := rfl

@[simp] theorem readText_str (cls : ExnClass) (field s : String) :
    readText cls field (.str s) = .ok s := rfl

@[simp] theorem readOptionalText_ofOption (cls : ExnClass) (field : String) (s : Option String) :
    readOptionalText cls field (.ofOption s) = .ok s := by
  cases s <;> rfl

@[simp] theorem readInt_int (e : Exn) (n : Int) : readInt e (.int n) = .ok n := rfl

@[simp] theorem readBool_bool (e : Exn) (b : Bool) : readBool e (.bool b) = .ok b := rfl

@[simp] theorem readList_arr (e : Exn) (elems : List Json) :
    readList e (.arr elems) = .ok elems := rfl

/-- A list of strings, each taken for a string of its own. -/
def readTexts (cls : ExnClass) (field : String) (e : Exn) (j : Json) : Py (List String) := do
  let elems ← readList e j
  elems.mapM (readText cls field)

@[simp] theorem readTexts_strings (cls : ExnClass) (field : String) (e : Exn) (l : List String) :
    readTexts cls field e (.strings l) = .ok l := by
  simp only [readTexts, Json.strings, readList_arr, ok_bind, mapM_eq_ok]
  rw [List.forall₂_map_left_iff]
  exact List.forall₂_same.mpr fun _ _ => rfl

/-- The value is an object. -/
def isObject : Json → Bool
  | .obj _ => true
  | _ => false

/-- The value is this string. -/
def isStr (s : String) : Json → Bool
  | .str t => t = s
  | _ => false

/-- `payload[key] != expected`, for a fingerprint computed from what was read. -/
def verify (doc : Json) (key expected : String) (e : Exn) : Py Unit := do
  let value ← getItem doc key
  require (isStr expected value = true) e

theorem verify_eq_ok {doc : Json} {key expected : String} {e : Exn} {u : Unit} :
    verify doc key expected e = .ok u ↔ doc.get? key = some (.str expected) := by
  simp only [verify, bind_eq_ok, getItem_eq_ok, require_eq_ok]
  constructor
  · rintro ⟨value, hvalue, hstr⟩
    cases value with
    | str t =>
      rw [hvalue, of_decide_eq_true hstr]
    | _ => exact absurd hstr Bool.false_ne_true
  · intro h
    exact ⟨_, h, decide_eq_true rfl⟩

theorem verify_of {doc : Json} {key expected : String} {e : Exn}
    (h : doc.get? key = some (.str expected)) : verify doc key expected e = .ok () :=
  verify_eq_ok.mpr h

/-! ## Details -/

/-- The details of an event as a document. -/
def pairs (l : List (String × String)) : Json := .arr (l.map fun d => .strings [d.1, d.2])

@[simp] theorem valid_pairs (l : List (String × String)) : valid (pairs l) := by
  rw [pairs, valid, elemsValid_iff]
  intro j hj
  obtain ⟨d, -, rfl⟩ := List.mem_map.mp hj
  exact valid_strings _

@[simp] theorem normal_pairs (l : List (String × String)) : normal (pairs l) = pairs l := by
  rw [pairs, normal, elemsNormal_eq_map, List.map_map]
  exact congrArg Json.arr (List.map_congr_left fun d _ => normal_strings _)

/-- One detail: a list of two strings. -/
def readPair (e : Exn) : Json → Py (String × String)
  | .arr [.str key, .str value] => .ok (key, value)
  | _ => .error e

def readPairs (listError itemError : Exn) (j : Json) : Py (List (String × String)) := do
  let items ← readList listError j
  items.mapM (readPair itemError)

@[simp] theorem readPairs_pairs (listError itemError : Exn) (l : List (String × String)) :
    readPairs listError itemError (pairs l) = .ok l := by
  simp only [readPairs, pairs, readList_arr, ok_bind, mapM_eq_ok]
  rw [List.forall₂_map_left_iff]
  exact List.forall₂_same.mpr fun _ _ => rfl

end NightRecon.WhiteEngine.Reading
