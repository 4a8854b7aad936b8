import Mathlib.Data.Nat.Digits.Defs

/-!
# Byte strings

Reading back what was written into a list, and numbers of a fixed number of bytes.

* `At` — what stands at a place of a list, and what follows it; `At.take`, `At.next`, `At.get`;
* `leBytes`, `beBytes` — a number as its low bytes, the lowest first or last; `ofDigits_leBytes`.
-/

namespace NightRecon.Lib.Bytes

/-! ## What stands at a place -/

section Places

variable {α : Type*} {data x y rest : List α} {pos : Nat} {b : α}

/-- `x` stands at `pos`, and `rest` follows to the end. -/
def At (data : List α) (pos : Nat) (x rest : List α) : Prop :=
  ∃ front, front.length = pos ∧ data = front ++ (x ++ rest)

theorem at_append (front x rest : List α) : At (front ++ (x ++ rest)) front.length x rest :=
  ⟨front, rfl, rfl⟩

theorem at_start (x rest : List α) : At (x ++ rest) 0 x rest := ⟨[], rfl, rfl⟩

theorem At.drop (h : At data pos x rest) : data.drop pos = x ++ rest := by
  obtain ⟨front, rfl, rfl⟩ := h
  exact List.drop_left

/-- The slice at the place is what stands there. -/
theorem At.take (h : At data pos x rest) : (data.drop pos).take x.length = x := by
  rw [h.drop]
  exact List.take_left

theorem At.length (h : At data pos x rest) : data.length = pos + x.length + rest.length := by
  obtain ⟨front, rfl, rfl⟩ := h
  rw [List.length_append, List.length_append, Nat.add_assoc]

/-- Behind what was read, the rest is to be read. -/
theorem At.next (h : At data pos (x ++ y) rest) : At data (pos + x.length) y rest := by
  obtain ⟨front, rfl, rfl⟩ := h
  refine ⟨front ++ x, List.length_append, ?_⟩
  rw [List.append_assoc, List.append_assoc]

/-- What stands at a place, without what follows it. -/
theorem At.first (h : At data pos (x ++ y) rest) : At data pos x (y ++ rest) := by
  obtain ⟨front, hfront, rfl⟩ := h
  refine ⟨front, hfront, ?_⟩
  rw [List.append_assoc]

theorem At.get (h : At data pos (b :: x) rest) : data[pos]? = some b := by
  rw [← List.head?_drop, h.drop]
  rfl

theorem At.tail (h : At data pos (b :: x) rest) : At data (pos + 1) x rest :=
  At.next (x := [b]) h

end Places

/-! ## Numbers -/

/-- The low `w` bytes of a number, the lowest first. -/
def leBytes : Nat → Nat → List UInt8
  | 0, _ => []
  | w + 1, n => UInt8.ofNat n :: leBytes w (n / 256)

@[simp] theorem length_leBytes (w n : Nat) : (leBytes w n).length = w := by
  induction w generalizing n with
  | zero => rfl
  | succ w ih => rw [leBytes, List.length_cons, ih]

/-- **A number is read back from its bytes.** -/
theorem ofDigits_leBytes {w n : Nat} (h : n < 256 ^ w) :
    Nat.ofDigits 256 ((leBytes w n).map UInt8.toNat) = n := by
  induction w generalizing n with
  | zero =>
    rw [Nat.pow_zero, Nat.lt_one_iff] at h
    rw [h]
    rfl
  | succ w ih =>
    have hdiv : n / 256 < 256 ^ w := by
      rw [Nat.pow_succ] at h
      exact Nat.div_lt_of_lt_mul (by rwa [Nat.mul_comm])
    have hbyte : (UInt8.ofNat n).toNat = n % 256 := UInt8.toNat_ofNat'
    rw [leBytes, List.map_cons, Nat.ofDigits_cons, ih hdiv, hbyte]
    exact Nat.mod_add_div n 256

/-- **Bytes are the bytes of the number they are read as.** -/
theorem leBytes_ofDigits (data : List UInt8) :
    leBytes data.length (Nat.ofDigits 256 (data.map UInt8.toNat)) = data := by
  induction data with
  | nil => rfl
  | cons b data ih =>
    have hlt := b.toNat_lt
    rw [List.map_cons, Nat.ofDigits_cons, List.length_cons, leBytes]
    have hdiv : (b.toNat + 256 * Nat.ofDigits 256 (data.map UInt8.toNat)) / 256 =
        Nat.ofDigits 256 (data.map UInt8.toNat) := by omega
    have hbyte : UInt8.ofNat (b.toNat + 256 * Nat.ofDigits 256 (data.map UInt8.toNat)) = b := by
      rw [← UInt8.toNat_inj, UInt8.toNat_ofNat']
      omega
    rw [hdiv, hbyte, ih]

/-- The low `w` bytes of a number, the lowest last. -/
def beBytes (w n : Nat) : List UInt8 := (leBytes w n).reverse

@[simp] theorem length_beBytes (w n : Nat) : (beBytes w n).length = w := by
  rw [beBytes, List.length_reverse, length_leBytes]

end NightRecon.Lib.Bytes
