import NightRecon.Lib.Text

/-!
# JSON values and their canonical text

* `Json` — JSON values; an object is the list of its members in the order written, and a
  number with a fraction or an exponent is kept as its literal;
* `Json.get?` — member lookup in an object;
* `Json.write` — the canonical text: members sorted by key, separators `,` and `:`, characters
  outside ASCII written as they are.
-/

namespace NightRecon.Lib

open NightRecon.Lib.Text

/-- A JSON value. -/
inductive Json where
  | null
  | bool (b : Bool)
  | int (n : Int)
  | float (literal : String)
  | str (s : String)
  | arr (elems : List Json)
  | obj (members : List (String × Json))
  deriving Inhabited

namespace Json

/-- A string or `null`. -/
def ofOption : Option String → Json
  | none => .null
  | some s => .str s

/-- A list of strings. -/
def strings (l : List String) : Json := .arr (l.map .str)

/-- The value of an object's member. -/
def get? : Json → String → Option Json
  | .obj members, key => (members.find? fun m => m.1 = key).map (·.2)
  | _, _ => none

/-- The members of an object with one member overwritten, or added at the end. -/
def setMember (members : List (String × Json)) (key : String) (v : Json) : List (String × Json) :=
  if ∃ m ∈ members, m.1 = key then members.map fun m => if m.1 = key then (key, v) else m
  else members ++ [(key, v)]

theorem find?_setMember (members : List (String × Json)) (key : String) (v : Json) (k : String) :
    ((setMember members key v).find? fun m => m.1 = k).map (·.2) =
      if k = key then some v else (members.find? fun m => m.1 = k).map (·.2) := by
  unfold setMember
  split
  · rename_i h
    induction members with
    | nil => simp at h
    | cons m ms ih =>
      by_cases hm : m.1 = key
      · by_cases hk : k = key
        · simp [hm, hk]
        · have hrest : ((ms.map fun m => if m.1 = key then (key, v) else m).find?
              fun m => decide (m.1 = k)).map (·.2) = (ms.find? fun m => m.1 = k).map (·.2) := by
            by_cases hms : ∃ m ∈ ms, m.1 = key
            · rw [ih hms, if_neg hk]
            · congr 2
              rw [List.map_congr_left (g := id), List.map_id]
              intro m hmem
              exact if_neg fun heq => hms ⟨m, hmem, heq⟩
          have hne : ¬ key = k := fun heq => hk heq.symm
          simp only [List.map_cons, hm, if_true, List.find?_cons, hne, decide_false, hk, if_false,
            hrest]
      · have hms : ∃ m ∈ ms, m.1 = key := by
          obtain ⟨m', hmem, hm'⟩ := h
          rcases List.mem_cons.mp hmem with rfl | hmem
          · exact absurd hm' hm
          · exact ⟨m', hmem, hm'⟩
        by_cases hk : m.1 = k
        · have hkey : ¬ k = key := fun heq => hm (hk.trans heq)
          simp only [List.map_cons, if_false, List.find?_cons, hk, decide_true, hkey]
        · simp only [List.map_cons, hm, if_false, List.find?_cons, hk, decide_false, ih hms]
  · rename_i h
    by_cases hk : k = key
    · have hnone : members.find? (fun m => decide (m.1 = k)) = none := by
        rw [List.find?_eq_none]
        intro m hm heq
        exact h ⟨m, hm, hk ▸ of_decide_eq_true heq⟩
      rw [List.find?_append, hnone]
      simp [hk]
    · have hne : ¬ key = k := fun heq => hk heq.symm
      simp [List.find?_append, hne, hk]

/-- One hexadecimal digit, lower case. -/
def hexDigit (n : Nat) : Char :=
  if n < 10 then Char.ofNat ('0'.toNat + n) else Char.ofNat ('a'.toNat + (n - 10))

/-- One character inside a string literal. -/
def escapeChar (c : Char) : List Char :=
  if c = '"' then ['\\', '"']
  else if c = '\\' then ['\\', '\\']
  else if c = '\n' then ['\\', 'n']
  else if c = '\r' then ['\\', 'r']
  else if c = '\t' then ['\\', 't']
  else if c.toNat = 8 then ['\\', 'b']
  else if c.toNat = 12 then ['\\', 'f']
  else if c.toNat < 32 then
    ['\\', 'u', '0', '0', hexDigit (c.toNat / 16), hexDigit (c.toNat % 16)]
  else [c]

/-- A string literal. -/
def quote (s : String) : List Char := '"' :: s.toList.flatMap escapeChar ++ ['"']

mutual

/-- The canonical text of a value, as characters. -/
def chars : Json → List Char
  | .null => "null".toList
  | .bool b => (if b then "true" else "false").toList
  | .int n => (toString n).toList
  | .float literal => literal.toList
  | .str s => quote s
  | .arr elems => '[' :: List.intercalate [','] (elemChars elems) ++ [']']
  | .obj members =>
      let sorted := (memberChars members).insertionSort fun a b => a.1 ≤ b.1
      '{' :: List.intercalate [','] (sorted.map fun m => quote m.1 ++ ':' :: m.2) ++ ['}']

/-- The texts of a list's elements. -/
def elemChars : List Json → List (List Char)
  | [] => []
  | x :: xs => chars x :: elemChars xs

/-- The keys and value texts of an object's members. -/
def memberChars : List (String × Json) → List (String × List Char)
  | [] => []
  | (k, v) :: ms => (k, chars v) :: memberChars ms

end

/-- The canonical text of a value. -/
def write (j : Json) : String := String.ofList (chars j)

end Json

example : (Json.obj [("b", .strings ["x\ny"]), ("a", .int (-3))]).write =
    "\x7b\"a\":-3,\"b\":[\"x\\ny\"]\x7d" := by decide +kernel

end NightRecon.Lib
