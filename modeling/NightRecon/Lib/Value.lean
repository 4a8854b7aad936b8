import Mathlib.Data.Rat.Floor
import NightRecon.Lib.Json

/-!
# Values of a dynamically typed program

`Value` is the data a caller can put into a record: JSON values, tuples beside lists, and
dictionaries whose keys are no strings.  Every "not a number" is taken for the one object the JSON
reader makes, which equals itself inside a container.

* `Value.toJson`, `Value.ofJson` — what writing a value as JSON and reading it back gives: a tuple
  comes back as a list (`ofJson_toJson` for values without tuples);
* `Value.canon` — the canonical form that decides the language's `==`: numbers of all three kinds
  are compared by what they denote, dictionaries without their order.
-/

namespace NightRecon.Lib

open NightRecon.Lib.Text

/-! ## Numbers -/

/-- The number a decimal literal denotes, before rounding. -/
def decimalValue (literal : List Char) : Option ℚ :=
  let negative := literal.head? = some '-'
  let l := if negative then literal.tail else literal
  let whole := l.takeWhile isDigit
  let rest := l.dropWhile isDigit
  let frac := if rest.head? = some '.' then rest.tail.takeWhile isDigit else []
  let rest := if rest.head? = some '.' then rest.tail.dropWhile isDigit else rest
  let exponent : Option ℤ :=
    match rest with
    | [] => some 0
    | 'e' :: '-' :: ds => some (-(digitsVal ds : ℤ))
    | 'e' :: '+' :: ds => some (digitsVal ds)
    | 'e' :: ds => some (digitsVal ds)
    | _ => none
  if whole = [] then none
  else exponent.map fun e : ℤ =>
    (if negative then -1 else 1) * (digitsVal (whole ++ frac) : ℚ) * 10 ^ (e - frac.length)

/-- The nearest number with 53 significant binary digits, ties to even. -/
def roundDouble (q : ℚ) : ℚ :=
  if q = 0 then 0
  else
    let size : ℤ := (Nat.log2 q.num.natAbs : ℤ) - Nat.log2 q.den
    let size := if |q| < 2 ^ size then size - 1 else size
    let ulp : ℚ := 2 ^ max (size - 52) (-1074)
    let n := ⌊q / ulp⌋
    let rest := q / ulp - n
    let n := if rest < 1 / 2 ∨ (rest = 1 / 2 ∧ n % 2 = 0) then n else n + 1
    n * ulp

/-- The number a float's literal denotes; `none` for infinities and for "not a number". -/
def floatValue (literal : String) : Option ℚ := (decimalValue literal.toList).map roundDouble

/-! ## Values -/

/-- A dictionary key that is no string. -/
inductive Key where
  | none
  | bool (b : Bool)
  | int (n : Int)
  | float (literal : String)
  deriving DecidableEq

/-- The member name a key is written as. -/
def Key.text : Key → String
  | .none => "null"
  | .bool b => if b then "true" else "false"
  | .int n => toString n
  | .float literal => literal

/-- What equal keys have in common. -/
def Key.canon : Key → String
  | .none => "null"
  | .bool b => if b then "1/1" else "0/1"
  | .int n => toString n ++ "/1"
  | .float literal =>
      ((floatValue literal).map fun q => toString q.num ++ "/" ++ toString q.den).getD literal

/-- A value.  A float is kept as the literal it is printed as.  The keys of a dictionary that can
be written with sorted keys are all strings (`dict`) or none is (`table`). -/
inductive Value where
  | none
  | bool (b : Bool)
  | int (n : Int)
  | float (literal : String)
  | str (s : String)
  | list (elems : List Value)
  | tuple (elems : List Value)
  | dict (members : List (String × Value))
  | table (members : List (Key × Value))
  deriving Inhabited

/-- A canonical value without parts. -/
inductive Atom where
  | none
  | num (q : ℚ)
  | notANumber (literal : String)
  | str (s : String)
  deriving DecidableEq

/-- The kinds of containers, which are never equal to one another. -/
inductive Shape where
  | list
  | tuple
  | dict
  | table
  deriving DecidableEq

/-- What equal values have in common.  The parts of a list or a tuple carry an empty key. -/
inductive Canon where
  | atom (a : Atom)
  | node (shape : Shape) (parts : List (String × Canon))

namespace Canon

mutual

def decEq : (a b : Canon) → Decidable (a = b)
  | .atom p, .atom q => decidable_of_iff (p = q) (by simp)
  | .node shape p, .node shape' q =>
      have := decEqParts p q
      decidable_of_iff (shape = shape' ∧ p = q) (by simp)
  | .atom _, .node _ _ | .node _ _, .atom _ => isFalse nofun

def decEqParts : (a b : List (String × Canon)) → Decidable (a = b)
  | [], [] => isTrue rfl
  | [], _ :: _ | _ :: _, [] => isFalse nofun
  | (k, x) :: xs, (l, y) :: ys =>
      have := decEq x y
      have := decEqParts xs ys
      decidable_of_iff ((k = l ∧ x = y) ∧ xs = ys) (by simp)

end

instance : DecidableEq Canon := decEq

end Canon

namespace Value

mutual

/-- The canonical form of a value. -/
def canon : Value → Canon
  | .none => .atom .none
  | .bool b => .atom (.num (if b then 1 else 0))
  | .int n => .atom (.num n)
  | .float literal => .atom (((floatValue literal).map .num).getD (.notANumber literal))
  | .str s => .atom (.str s)
  | .list elems => .node .list (canonList elems)
  | .tuple elems => .node .tuple (canonList elems)
  | .dict members => .node .dict ((canonMembers members).insertionSort fun a b => a.1 ≤ b.1)
  | .table [] => .node .dict []
  | .table (m :: members) =>
      .node .table ((canonTable (m :: members)).insertionSort fun a b => a.1 ≤ b.1)

def canonList : List Value → List (String × Canon)
  | [] => []
  | x :: xs => ("", canon x) :: canonList xs

def canonMembers : List (String × Value) → List (String × Canon)
  | [] => []
  | (k, v) :: ms => (k, canon v) :: canonMembers ms

def canonTable : List (Key × Value) → List (String × Canon)
  | [] => []
  | (k, v) :: ms => (k.canon, canon v) :: canonTable ms

end

mutual

/-- What writing a value as JSON gives. -/
def toJson : Value → Json
  | .none => .null
  | .bool b => .bool b
  | .int n => .int n
  | .float literal => .float literal
  | .str s => .str s
  | .list elems => .arr (listToJson elems)
  | .tuple elems => .arr (listToJson elems)
  | .dict members => .obj (membersToJson members)
  | .table members => .obj (tableToJson members)

def listToJson : List Value → List Json
  | [] => []
  | x :: xs => toJson x :: listToJson xs

def membersToJson : List (String × Value) → List (String × Json)
  | [] => []
  | (k, v) :: ms => (k, toJson v) :: membersToJson ms

def tableToJson : List (Key × Value) → List (String × Json)
  | [] => []
  | (k, v) :: ms => (k.text, toJson v) :: tableToJson ms

end

mutual

/-- What reading JSON gives. -/
def ofJson : Json → Value
  | .null => .none
  | .bool b => .bool b
  | .int n => .int n
  | .float literal => .float literal
  | .str s => .str s
  | .arr elems => .list (listOfJson elems)
  | .obj members => .dict (membersOfJson members)

def listOfJson : List Json → List Value
  | [] => []
  | x :: xs => ofJson x :: listOfJson xs

def membersOfJson : List (String × Json) → List (String × Value)
  | [] => []
  | (k, v) :: ms => (k, ofJson v) :: membersOfJson ms

end

mutual

/-- No tuple, and no key that is no string, anywhere inside. -/
def tupleFree : Value → Bool
  | .tuple _ | .table _ => false
  | .list elems => listTupleFree elems
  | .dict members => membersTupleFree members
  | _ => true

def listTupleFree : List Value → Bool
  | [] => true
  | x :: xs => tupleFree x && listTupleFree xs

def membersTupleFree : List (String × Value) → Bool
  | [] => true
  | (_, v) :: ms => tupleFree v && membersTupleFree ms

end

mutual

/-- **A value without tuples survives being written and read.** -/
theorem ofJson_toJson : ∀ v : Value, v.tupleFree = true → ofJson (toJson v) = v
  | .none, _ | .bool _, _ | .int _, _ | .float _, _ | .str _, _ => rfl
  | .list elems, h => by
      rw [toJson, ofJson, listOfJson_listToJson elems (by simpa [tupleFree] using h)]
  | .dict members, h => by
      rw [toJson, ofJson, membersOfJson_membersToJson members (by simpa [tupleFree] using h)]
  | .tuple _, h | .table _, h => by simp [tupleFree] at h

theorem listOfJson_listToJson :
    ∀ l : List Value, listTupleFree l = true → listOfJson (listToJson l) = l
  | [], _ => rfl
  | v :: l, h => by
      rw [listTupleFree, Bool.and_eq_true] at h
      rw [listToJson, listOfJson, ofJson_toJson v h.1, listOfJson_listToJson l h.2]

theorem membersOfJson_membersToJson :
    ∀ l : List (String × Value), membersTupleFree l = true → membersOfJson (membersToJson l) = l
  | [], _ => rfl
  | (k, v) :: l, h => by
      rw [membersTupleFree, Bool.and_eq_true] at h
      rw [membersToJson, membersOfJson, ofJson_toJson v h.1, membersOfJson_membersToJson l h.2]

end

mutual

/-- **What was read is written as it was.** -/
@[simp] theorem toJson_ofJson : ∀ j : Json, toJson (ofJson j) = j
  | .null | .bool _ | .int _ | .float _ | .str _ => rfl
  | .arr elems => by rw [ofJson, toJson, listToJson_listOfJson elems]
  | .obj members => by rw [ofJson, toJson, membersToJson_membersOfJson members]

@[simp] theorem listToJson_listOfJson : ∀ l : List Json, listToJson (listOfJson l) = l
  | [] => rfl
  | j :: l => by rw [listOfJson, listToJson, toJson_ofJson j, listToJson_listOfJson l]

@[simp] theorem membersToJson_membersOfJson :
    ∀ l : List (String × Json), membersToJson (membersOfJson l) = l
  | [] => rfl
  | (k, j) :: l => by
      rw [membersOfJson, membersToJson, toJson_ofJson j, membersToJson_membersOfJson l]

end

end Value

example : Value.canon (.dict [("a", .bool true), ("b", .float "2.0")]) =
    Value.canon (.dict [("b", .int 2), ("a", .float "1.0")]) := by decide +kernel

end NightRecon.Lib
