import Mathlib.Data.Nat.Basic
import Mathlib.Data.Set.Basic
import Mathlib.Tactic.Ring

/-!
# Aligned blocks of numbers

A **block** is the set of the `2 ^ bits` consecutive natural numbers whose quotient by
`2 ^ bits` is `index`: the address set of a CIDR network.

* `Block.Subset` is containment of the sets (`subset_iff`), decided by one division;
* `subset_or_subset_or_disjoint` — two blocks are nested or disjoint;
* `exclude b e` — the blocks left of `b` when `e ⊆ b` is taken out: the siblings on the way from
  `b` down to `e`.  Their union is exactly the difference (`mem_exclude`), and every block inside
  `b` that avoids `e` lies inside a single one of them (`subset_exclude`), so they are the maximal
  aligned blocks of the difference.
-/

namespace NightRecon.Lib.Cidr

/-- The `2 ^ bits` consecutive numbers with quotient `index`. -/
structure Block where
  bits : Nat
  index : Nat
  deriving DecidableEq

namespace Block

instance : Membership Nat Block := ⟨fun b a => a / 2 ^ b.bits = b.index⟩

theorem mem_def {a : Nat} {b : Block} : a ∈ b ↔ a / 2 ^ b.bits = b.index := Iff.rfl

instance (a : Nat) (b : Block) : Decidable (a ∈ b) :=
  inferInstanceAs (Decidable (a / 2 ^ b.bits = b.index))

instance : HasSubset Block :=
  ⟨fun b c => b.bits ≤ c.bits ∧ b.index / 2 ^ (c.bits - b.bits) = c.index⟩

theorem subset_def {b c : Block} :
    b ⊆ c ↔ b.bits ≤ c.bits ∧ b.index / 2 ^ (c.bits - b.bits) = c.index := Iff.rfl

instance (b c : Block) : Decidable (b ⊆ c) := inferInstanceAs (Decidable (_ ∧ _))

/-- The first number of a block. -/
def first (b : Block) : Nat := b.index * 2 ^ b.bits

/-- The last number of a block. -/
def last (b : Block) : Nat := b.index * 2 ^ b.bits + (2 ^ b.bits - 1)

theorem mem_iff {a : Nat} {b : Block} : a ∈ b ↔ b.first ≤ a ∧ a ≤ b.last := by
  have hpos : 0 < 2 ^ b.bits := Nat.two_pow_pos _
  rw [mem_def, Nat.div_eq_iff hpos]
  simp only [first, last]
  omega

theorem first_mem (b : Block) : b.first ∈ b := by
  rw [mem_iff]
  simp [first, last]

theorem last_mem (b : Block) : b.last ∈ b := by
  rw [mem_iff]
  simp [first, last]

/-! ## Containment -/

theorem mem_of_subset {b c : Block} (h : b ⊆ c) {a : Nat} (ha : a ∈ b) : a ∈ c := by
  obtain ⟨hle, hidx⟩ := h
  rw [mem_def] at *
  rw [← hidx, ← ha, Nat.div_div_eq_div_mul, ← pow_add, Nat.add_sub_cancel' hle]

/-- Two blocks that share a number are nested, the one with fewer bits inside. -/
theorem subset_of_mem {b c : Block} (hle : b.bits ≤ c.bits) {a : Nat} (hb : a ∈ b) (hc : a ∈ c) :
    b ⊆ c := by
  refine ⟨hle, ?_⟩
  rw [mem_def] at *
  rw [← hb, ← hc, Nat.div_div_eq_div_mul, ← pow_add, Nat.add_sub_cancel' hle]

/-- The size of a block bounds the size of the blocks inside it. -/
theorem bits_le_of_mem_subset {b c : Block} (h : ∀ a ∈ b, a ∈ c) : b.bits ≤ c.bits := by
  by_contra hlt
  have hf := (mem_iff.mp (h _ b.first_mem))
  have hl := (mem_iff.mp (h _ b.last_mem))
  have hpow : 2 ^ c.bits < 2 ^ b.bits := Nat.pow_lt_pow_right (by decide) (by omega)
  have hpos : 0 < 2 ^ c.bits := Nat.two_pow_pos _
  simp only [first, last] at hf hl
  omega

theorem subset_iff {b c : Block} : b ⊆ c ↔ ∀ a ∈ b, a ∈ c :=
  ⟨fun h _ ha => mem_of_subset h ha,
    fun h => subset_of_mem (bits_le_of_mem_subset h) b.first_mem (h _ b.first_mem)⟩

theorem subset_refl (b : Block) : b ⊆ b := subset_iff.mpr fun _ h => h

theorem subset_trans {b c d : Block} (h₁ : b ⊆ c) (h₂ : c ⊆ d) : b ⊆ d :=
  subset_iff.mpr fun _ h => mem_of_subset h₂ (mem_of_subset h₁ h)

/-- No number in common. -/
def Disjoint (b c : Block) : Prop := ∀ a, a ∈ b → a ∉ c

/-- **Two blocks are nested or disjoint.** -/
theorem subset_or_subset_or_disjoint (b c : Block) : b ⊆ c ∨ c ⊆ b ∨ b.Disjoint c := by
  by_cases hd : b.Disjoint c
  · exact .inr (.inr hd)
  · simp only [Disjoint, not_forall, not_not] at hd
    obtain ⟨a, hb, hc⟩ := hd
    rcases Nat.le_total b.bits c.bits with hle | hle
    · exact .inl (subset_of_mem hle hb hc)
    · exact .inr (.inl (subset_of_mem hle hc hb))

theorem not_disjoint_of_subset {b c : Block} (h : b ⊆ c) : ¬ b.Disjoint c :=
  fun hd => hd _ b.first_mem (mem_of_subset h b.first_mem)

/-- A block that contains an end of another one, or has an end inside it, meets it. -/
theorem disjoint_iff {b c : Block} :
    b.Disjoint c ↔ ¬ (c.first ∈ b ∨ c.last ∈ b ∨ b.first ∈ c ∨ b.last ∈ c) := by
  constructor
  · rintro hd (h | h | h | h)
    · exact hd _ h c.first_mem
    · exact hd _ h c.last_mem
    · exact hd _ b.first_mem h
    · exact hd _ b.last_mem h
  · intro h
    rcases subset_or_subset_or_disjoint b c with hs | hs | hd
    · exact absurd (.inr (.inr (.inl (mem_of_subset hs b.first_mem)))) h
    · exact absurd (.inl (mem_of_subset hs c.first_mem)) h
    · exact hd

/-! ## Halves -/

/-- The lower half of a block of at least two numbers. -/
def lower (b : Block) : Block := ⟨b.bits - 1, 2 * b.index⟩

/-- The upper half of a block of at least two numbers. -/
def upper (b : Block) : Block := ⟨b.bits - 1, 2 * b.index + 1⟩

theorem mem_halves {b : Block} (hb : 0 < b.bits) (a : Nat) :
    a ∈ b ↔ a ∈ b.lower ∨ a ∈ b.upper := by
  obtain ⟨n, hn⟩ : ∃ n, b.bits = n + 1 := ⟨b.bits - 1, by omega⟩
  simp only [mem_def, lower, upper, hn, Nat.add_sub_cancel, pow_succ]
  rw [← Nat.div_div_eq_div_mul]
  omega

theorem lower_disjoint_upper (b : Block) : b.lower.Disjoint b.upper := by
  intro a h₁ h₂
  simp only [mem_def, lower, upper] at h₁ h₂
  omega

theorem lower_subset {b : Block} (hb : 0 < b.bits) : b.lower ⊆ b :=
  subset_iff.mpr fun a h => (mem_halves hb a).mpr (.inl h)

theorem upper_subset {b : Block} (hb : 0 < b.bits) : b.upper ⊆ b :=
  subset_iff.mpr fun a h => (mem_halves hb a).mpr (.inr h)

theorem eq_of_subset_of_bits {b c : Block} (h : b ⊆ c) (hbits : b.bits = c.bits) : b = c := by
  obtain ⟨_, hidx⟩ := h
  rw [hbits, Nat.sub_self, pow_zero, Nat.div_one] at hidx
  cases b; cases c
  simp_all

/-- A proper part of a block lies inside one of its halves. -/
theorem subset_half {b e : Block} (h : e ⊆ b) (hne : e ≠ b) :
    0 < b.bits ∧ (e ⊆ b.lower ∨ e ⊆ b.upper) := by
  have hlt : e.bits < b.bits := by
    rcases Nat.lt_or_ge e.bits b.bits with hlt | hge
    · exact hlt
    · exact absurd (eq_of_subset_of_bits h (Nat.le_antisymm h.1 hge)) hne
  refine ⟨by omega, ?_⟩
  have hle : e.bits ≤ b.bits - 1 := by omega
  rcases (mem_halves (by omega) _).mp (mem_of_subset h e.first_mem) with hl | hu
  · exact .inl (subset_of_mem hle e.first_mem hl)
  · exact .inr (subset_of_mem hle e.first_mem hu)

/-! ## Taking a block out of another -/

/-- The siblings on the way from `b` down to `e`, in `n` halvings. -/
def siblings : Nat → Block → Block → List Block
  | 0, _, _ => []
  | n + 1, b, e =>
      if e ⊆ b.lower then b.upper :: siblings n b.lower e
      else b.lower :: siblings n b.upper e

/-- What is left of `b` when `e ⊆ b` is taken out. -/
def exclude (b e : Block) : List Block := siblings (b.bits - e.bits) b e

theorem siblings_spec {n : Nat} : ∀ {b e : Block}, e ⊆ b → b.bits - e.bits = n →
    (∀ a, (∃ p ∈ siblings n b e, a ∈ p) ↔ a ∈ b ∧ a ∉ e) ∧
      ∀ t, t ⊆ b → t.Disjoint e → ∃ p ∈ siblings n b e, t ⊆ p := by
  induction n with
  | zero =>
    intro b e h hn
    have heq : e = b := eq_of_subset_of_bits h (by have := h.1; omega)
    subst heq
    exact ⟨fun a => by simp [siblings], fun t ht hd => absurd hd (not_disjoint_of_subset ht)⟩
  | succ n ih =>
    intro b e h hn
    have hne : e ≠ b := by
      rintro rfl
      omega
    obtain ⟨hpos, hhalf⟩ := subset_half h hne
    have hdisj := lower_disjoint_upper b
    by_cases hl : e ⊆ b.lower
    · -- `e` is in the lower half: the upper half is left whole
      obtain ⟨ihm, ihs⟩ := ih hl (by simp only [lower]; omega)
      have heu : ∀ a, a ∈ b.upper → a ∉ e := fun a ha he => hdisj a (mem_of_subset hl he) ha
      simp only [siblings, if_pos hl, List.mem_cons, exists_eq_or_imp]
      refine ⟨fun a => ?_, fun t ht hd => ?_⟩
      · rw [ihm, mem_halves hpos]
        have := heu a
        tauto
      · by_cases htb : t = b
        · subst htb
          exact absurd (first_mem e) (fun he => hd _ (mem_of_subset h he) he)
        · rcases (subset_half ht htb).2 with h' | h'
          · exact .inr (ihs t h' hd)
          · exact .inl h'
    · have hu : e ⊆ b.upper := hhalf.resolve_left hl
      obtain ⟨ihm, ihs⟩ := ih hu (by simp only [upper]; omega)
      have hel : ∀ a, a ∈ b.lower → a ∉ e := fun a ha he => hdisj a ha (mem_of_subset hu he)
      simp only [siblings, if_neg hl, List.mem_cons, exists_eq_or_imp]
      refine ⟨fun a => ?_, fun t ht hd => ?_⟩
      · rw [ihm, mem_halves hpos]
        have := hel a
        tauto
      · by_cases htb : t = b
        · subst htb
          exact absurd (first_mem e) (fun he => hd _ (mem_of_subset h he) he)
        · rcases (subset_half ht htb).2 with h' | h'
          · exact .inl h'
          · exact .inr (ihs t h' hd)

/-- **The pieces cover exactly the difference.** -/
theorem mem_exclude {b e : Block} (h : e ⊆ b) (a : Nat) :
    (∃ p ∈ exclude b e, a ∈ p) ↔ a ∈ b ∧ a ∉ e :=
  (siblings_spec h rfl).1 a

/-- **Every block of the difference lies inside one piece.** -/
theorem subset_exclude {b e t : Block} (h : e ⊆ b) (ht : t ⊆ b) (hd : t.Disjoint e) :
    ∃ p ∈ exclude b e, t ⊆ p :=
  (siblings_spec h rfl).2 t ht hd

end Block

end NightRecon.Lib.Cidr
