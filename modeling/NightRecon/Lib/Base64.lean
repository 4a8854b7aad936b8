import Mathlib.Algebra.Order.Ring.Nat
import Mathlib.Data.List.Basic
import Mathlib.Tactic.Cases

/-!
# Base64

* `encode` — `base64.b64encode`; `decode` — `base64.b64decode(…, validate=True)`, which reads one
  character at a time;
* `decode_encode` — a text that was encoded is decoded;
* `bounds_of_mem_encode` — what an encoded text is made of, and `length_encode` how long it is.
-/

namespace NightRecon.Lib.Base64

def alphabet : List Char :=
  "ABCDEFGHIJKLMNOPQRSTUVWXYZabcdefghijklmnopqrstuvwxyz0123456789+/".toList

/-- The character of six bits. -/
def digit (n : Nat) : Char := alphabet.getD n 'A'

/-- The six bits of a character. -/
def value (c : Char) : Option Nat :=
  if 'A' ≤ c ∧ c ≤ 'Z' then some (c.toNat - 65)
  else if 'a' ≤ c ∧ c ≤ 'z' then some (c.toNat - 97 + 26)
  else if '0' ≤ c ∧ c ≤ '9' then some (c.toNat - 48 + 52)
  else if c = '+' then some 62
  else if c = '/' then some 63
  else none

theorem value_digit : ∀ n < 64, value (digit n) = some n := by decide +kernel

theorem digit_ne_pad {n : Nat} (h : n < 64) : digit n ≠ '=' := by
  intro hpad
  have hvalue := value_digit n h
  rw [hpad] at hvalue
  exact absurd hvalue (by simp [value])

/-- `base64.b64encode(data)`. -/
def encode : List UInt8 → List Char
  | [] => []
  | [a] => [digit (a.toNat / 4), digit (a.toNat % 4 * 16), '=', '=']
  | [a, b] =>
      [digit (a.toNat / 4), digit (a.toNat % 4 * 16 + b.toNat / 16), digit (b.toNat % 16 * 4), '=']
  | a :: b :: c :: rest =>
      digit (a.toNat / 4) :: digit (a.toNat % 4 * 16 + b.toNat / 16) ::
        digit (b.toNat % 16 * 4 + c.toNat / 64) :: digit (c.toNat % 64) :: encode rest

/-- Where a reader stands in a group of four characters, with the bits that are left over. -/
inductive Place where
  | first
  | second (left : Nat)
  | third (left : Nat)
  | fourth (left : Nat)

/-- The number of characters read of the group. -/
def Place.index : Place → Nat
  | .first => 0
  | .second _ => 1
  | .third _ => 2
  | .fourth _ => 3

/-- The byte that six more bits complete, and where the reader stands behind them. -/
def Place.next : Place → Nat → List UInt8 × Place
  | .first, v => ([], .second v)
  | .second left, v => ([UInt8.ofNat (left * 4 + v / 16)], .third (v % 16))
  | .third left, v => ([UInt8.ofNat (left * 16 + v / 4)], .fourth (v % 4))
  | .fourth left, v => ([UInt8.ofNat (left * 64 + v)], .first)

/-- The loop of `binascii.a2b_base64` in its strict mode; `pads` counts the padding characters in
the group, and `padding` is whether there was one at all. -/
def decodeFrom (place : Place) (pads : Nat) (padding : Bool) : List Char → Option (List UInt8)
  | [] => if place.index = 0 then some [] else none
  | c :: rest =>
      if c = '=' then
        if place.index < 2 then decodeFrom place pads true rest
        else if 4 ≤ place.index + (pads + 1) then if rest = [] then some [] else none
        else decodeFrom place (pads + 1) true rest
      else
        match value c with
        | none => none
        | some v =>
            if padding then none
            else (decodeFrom (place.next v).2 0 false rest).map ((place.next v).1 ++ ·)

/-- `base64.b64decode(text, validate=True)`. -/
def decode (text : List Char) : Option (List UInt8) :=
  if text.head? = some '=' then none else decodeFrom .first 0 false text

/-! ## Reading an encoded text -/

/-- One turn at a character of the alphabet. -/
theorem decodeFrom_digit (place : Place) {n : Nat} (hn : n < 64) (rest : List Char) :
    decodeFrom place 0 false (digit n :: rest) =
      (decodeFrom (place.next n).2 0 false rest).map ((place.next n).1 ++ ·) := by
  rw [decodeFrom, if_neg (digit_ne_pad hn), value_digit n hn]
  rfl

theorem decodeFrom_encode (data : List UInt8) :
    decodeFrom .first 0 false (encode data) = some data := by
  have hbyte : ∀ (a : UInt8) (n : Nat), n = a.toNat → UInt8.ofNat n = a := by
    rintro a n rfl
    exact UInt8.ofNat_toNat
  induction data using encode.induct with
  | case1 => rfl
  | case2 a =>
    have ha := a.toNat_lt
    rw [encode, decodeFrom_digit _ (by omega), decodeFrom_digit _ (by omega)]
    have hfirst : UInt8.ofNat (a.toNat / 4 * 4 + a.toNat % 4 * 16 / 16) = a :=
      hbyte a _ (by omega)
    simp only [Place.next, hfirst]
    rfl
  | case3 a b =>
    have ha := a.toNat_lt
    have hb := b.toNat_lt
    rw [encode, decodeFrom_digit _ (by omega), decodeFrom_digit _ (by omega),
      decodeFrom_digit _ (by omega)]
    have hfirst : UInt8.ofNat (a.toNat / 4 * 4 + (a.toNat % 4 * 16 + b.toNat / 16) / 16) = a :=
      hbyte a _ (by omega)
    have hsecond : UInt8.ofNat ((a.toNat % 4 * 16 + b.toNat / 16) % 16 * 16 +
        b.toNat % 16 * 4 / 4) = b := hbyte b _ (by omega)
    simp only [Place.next, hfirst, hsecond]
    rfl
  | case4 a b c rest ih =>
    have ha := a.toNat_lt
    have hb := b.toNat_lt
    have hc := c.toNat_lt
    rw [encode, decodeFrom_digit _ (by omega), decodeFrom_digit _ (by omega),
      decodeFrom_digit _ (by omega), decodeFrom_digit _ (by omega)]
    have hfirst : UInt8.ofNat (a.toNat / 4 * 4 + (a.toNat % 4 * 16 + b.toNat / 16) / 16) = a :=
      hbyte a _ (by omega)
    have hsecond : UInt8.ofNat ((a.toNat % 4 * 16 + b.toNat / 16) % 16 * 16 +
        (b.toNat % 16 * 4 + c.toNat / 64) / 4) = b := hbyte b _ (by omega)
    have hthird : UInt8.ofNat ((b.toNat % 16 * 4 + c.toNat / 64) % 4 * 64 + c.toNat % 64) = c :=
      hbyte c _ (by omega)
    simp only [Place.next, hfirst, hsecond, hthird, ih]
    rfl

/-- **What was encoded is decoded.** -/
theorem decode_encode (data : List UInt8) : decode (encode data) = some data := by
  have hfirst : ∀ (a : UInt8) (text : List Char),
      (digit (a.toNat / 4) :: text).head? ≠ some '=' := by
    intro a text hhead
    have ha := a.toNat_lt
    exact digit_ne_pad (by omega) (Option.some.inj hhead)
  have hhead : (encode data).head? ≠ some '=' := by
    unfold encode
    split
    · simp
    · exact hfirst _ _
    · exact hfirst _ _
    · exact hfirst _ _
  rw [decode, if_neg hhead, decodeFrom_encode]

/-- An encoded text is made of the alphabet and of padding. -/
theorem mem_encode {data : List UInt8} {c : Char} (h : c ∈ encode data) :
    (value c).isSome = true ∨ c = '=' := by
  have hdigit : ∀ n < 64, (value (digit n)).isSome = true := fun n hn => by
    rw [value_digit n hn, Option.isSome_some]
  induction data using encode.induct with
  | case1 => exact absurd h List.not_mem_nil
  | case2 a =>
    have ha := a.toNat_lt
    simp only [encode, List.mem_cons, List.not_mem_nil, or_false] at h
    rcases h with rfl | rfl | h | h
    · exact .inl (hdigit _ (by omega))
    · exact .inl (hdigit _ (by omega))
    · exact .inr h
    · exact .inr h
  | case3 a b =>
    have ha := a.toNat_lt
    have hb := b.toNat_lt
    simp only [encode, List.mem_cons, List.not_mem_nil, or_false] at h
    rcases h with rfl | rfl | rfl | h
    · exact .inl (hdigit _ (by omega))
    · exact .inl (hdigit _ (by omega))
    · exact .inl (hdigit _ (by omega))
    · exact .inr h
  | case4 a b d rest ih =>
    have ha := a.toNat_lt
    have hb := b.toNat_lt
    have hd := d.toNat_lt
    simp only [encode, List.mem_cons] at h
    rcases h with rfl | rfl | rfl | rfl | h
    · exact .inl (hdigit _ (by omega))
    · exact .inl (hdigit _ (by omega))
    · exact .inl (hdigit _ (by omega))
    · exact .inl (hdigit _ (by omega))
    · exact ih h

/-- The characters of an encoded text stand between `+` and `z`, and are no backslash. -/
theorem bounds_of_mem_encode {data : List UInt8} {c : Char} (h : c ∈ encode data) :
    43 ≤ c.toNat ∧ c.toNat ≤ 122 ∧ c ≠ '\\' := by
  have hrange : ∀ {lo hi : Char}, lo ≤ c → c ≤ hi → lo.toNat ≤ c.toNat ∧ c.toNat ≤ hi.toNat :=
    fun hlo hhi => ⟨UInt32.le_iff_toNat_le.mp hlo, UInt32.le_iff_toNat_le.mp hhi⟩
  have hbackslash : c.toNat ≠ 92 → c ≠ '\\' := by
    rintro hne rfl
    exact hne rfl
  rcases mem_encode h with hvalue | rfl
  · unfold value at hvalue
    split at hvalue
    · rename_i hupper
      obtain ⟨hlo, hhi⟩ := hrange hupper.1 hupper.2
      have hle : 65 ≤ c.toNat ∧ c.toNat ≤ 90 := ⟨hlo, hhi⟩
      exact ⟨by omega, by omega, hbackslash (by omega)⟩
    · split at hvalue
      · rename_i hlower
        obtain ⟨hlo, hhi⟩ := hrange hlower.1 hlower.2
        have hle : 97 ≤ c.toNat ∧ c.toNat ≤ 122 := ⟨hlo, hhi⟩
        exact ⟨by omega, by omega, hbackslash (by omega)⟩
      · split at hvalue
        · rename_i hdecimal
          obtain ⟨hlo, hhi⟩ := hrange hdecimal.1 hdecimal.2
          have hle : 48 ≤ c.toNat ∧ c.toNat ≤ 57 := ⟨hlo, hhi⟩
          exact ⟨by omega, by omega, hbackslash (by omega)⟩
        · split at hvalue
          · rename_i hplus
            subst hplus
            decide
          · split at hvalue
            · rename_i hslash
              subst hslash
              decide
            · exact absurd hvalue (by simp)
  · decide

theorem length_encode (data : List UInt8) : (encode data).length = (data.length + 2) / 3 * 4 := by
  induction data using encode.induct with
  | case1 => rfl
  | case2 a => simp [encode]
  | case3 a b => simp [encode]
  | case4 a b c rest ih =>
    simp only [encode, List.length_cons, ih]
    omega

end NightRecon.Lib.Base64
