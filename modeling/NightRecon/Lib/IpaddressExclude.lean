import NightRecon.Lib.Ipaddress

/-!
# Networks and their blocks

The network operations of `Ipaddress` are the block operations of `Cidr` on the address sets.

* `block_subset_of_subnetOf`, `subnetOf_of_block_subset` — `subnet_of` is containment, where no
  zone has a say;
* `overlaps_iff` — `overlaps` is having an address in common;
* `addressExclude_blocks`, `addressExclude_isSome` — `address_exclude` gives the blocks of
  `Block.exclude`, and gives them for every unzoned network inside the other.
-/

namespace NightRecon.Lib.Ipaddress

open NightRecon.Lib.Cidr

namespace IpNetwork

/-! ## Containment -/

theorem block_subset_of_subnetOf {a b : IpNetwork} (h : a.subnetOf b) : a.block ⊆ b.block := by
  obtain ⟨hfirst, hlast⟩ := h
  rw [Block.subset_iff]
  intro x hx
  rw [Block.mem_iff] at hx ⊢
  rcases hfirst with hlt | ⟨heq, -⟩
  · omega
  · omega

theorem subnetOf_of_block_subset {a b : IpNetwork} (h : a.block ⊆ b.block) (hz : b.zone = a.zone) :
    a.subnetOf b := by
  have hfirst := Block.mem_iff.mp (Block.mem_of_subset h a.block.first_mem)
  have hlast := Block.mem_iff.mp (Block.mem_of_subset h a.block.last_mem)
  refine ⟨?_, hlast.2⟩
  rcases Nat.lt_or_eq_of_le hfirst.1 with hlt | heq
  · exact .inl hlt
  · exact .inr ⟨heq, hz⟩

/-- Networks of one version and zone are told apart by their addresses. -/
theorem eq_of_block {a b : IpNetwork} (hv : a.version = b.version) (hz : a.zone = b.zone)
    (h : a.block = b.block) : a = b := by
  obtain ⟨va, pa, ia, za, ha, hia⟩ := a
  obtain ⟨vb, pb, ib, zb, hb, hib⟩ := b
  simp only [block, hostBits, Block.mk.injEq] at h hv hz
  subst hv hz
  obtain ⟨hbits, rfl⟩ := h
  have hprefix : pa = pb := by omega
  subst hprefix
  rfl

theorem overlaps_iff {a b : IpNetwork} :
    a.overlaps b ↔ a.version = b.version ∧ ¬ a.block.Disjoint b.block := by
  rw [overlaps, Block.disjoint_iff, not_not]

/-! ## Halves -/

theorem block_lower (n : IpNetwork) (h : n.prefixlen < n.version.bits) :
    (n.lower h).block = n.block.lower := by
  have hbits : n.version.bits - (n.prefixlen + 1) = n.version.bits - n.prefixlen - 1 := by omega
  simp only [block, lower, hostBits, Block.lower, hbits]

theorem block_upper (n : IpNetwork) (h : n.prefixlen < n.version.bits) :
    (n.upper h).block = n.block.upper := by
  have hbits : n.version.bits - (n.prefixlen + 1) = n.version.bits - n.prefixlen - 1 := by omega
  simp only [block, upper, hostBits, Block.upper, hbits]

theorem siblings_of_lower {n : Nat} {b e : Block} (h : e ⊆ b.lower) :
    Block.siblings (n + 1) b e = b.upper :: Block.siblings n b.lower e := by
  rw [Block.siblings, if_pos h]

theorem siblings_of_upper {n : Nat} {b e : Block} (h : e ⊆ b.upper) :
    Block.siblings (n + 1) b e = b.lower :: Block.siblings n b.upper e := by
  have hnot : ¬ e ⊆ b.lower := by
    intro hl
    exact b.lower_disjoint_upper _ (Block.mem_of_subset hl e.first_mem)
      (Block.mem_of_subset h e.first_mem)
  rw [Block.siblings, if_neg hnot]

/-- A part of a half that is not the half has fewer bits than it. -/
theorem bits_lt {b e : Block} (h : e ⊆ b) (hne : e ≠ b) : e.bits < b.bits := by
  rcases Nat.lt_or_eq_of_le h.1 with hlt | heq
  · exact hlt
  · exact absurd (Block.eq_of_subset_of_bits h heq) hne

/-- A network below another that has its addresses is the other. -/
theorem eq_of_subnetOf_of_block {a b : IpNetwork} (h : a.subnetOf b) (hv : a.version = b.version)
    (hblock : a.block = b.block) : a = b := by
  rcases h.1 with hlt | ⟨-, hz⟩
  · rw [hblock] at hlt
    exact absurd hlt (Nat.lt_irrefl _)
  · exact eq_of_block hv hz.symm hblock

/-! ## Taking a network out of another -/

/-- **The halving loop gives the siblings on its way**, unzoned and of the same version. -/
theorem excludeLoop_blocks {fuel : Nat} : ∀ {n other : IpNetwork} {ps : List IpNetwork},
    excludeLoop fuel n other = some ps → other.version = n.version → other.block ⊆ n.block →
    other.block ≠ n.block →
    ps.map block = Block.exclude n.block other.block ∧
      ∀ p ∈ ps, p.version = n.version ∧ p.zone = none := by
  induction fuel with
  | zero => intro n other ps h; cases h
  | succ fuel ih =>
    intro n other ps h hv hsub hne
    have hroom : n.prefixlen < n.version.bits := by
      have hlt := bits_lt hsub hne
      have hbits : n.block.bits = n.version.bits - n.prefixlen := rfl
      omega
    rw [excludeLoop, dif_pos hroom] at h
    dsimp only at h
    split_ifs at h with hlower hupper hbelow habove
    · -- the lower half is taken out
      cases h
      have hblock : other.block = n.block.lower := by rw [← hlower, block_lower]
      have hdiff : n.block.bits - other.block.bits = 1 := by
        have hpos := (Block.subset_half hsub hne).1
        rw [hblock]
        simp only [Block.lower]
        omega
      rw [Block.exclude, hdiff, siblings_of_lower (hblock ▸ Block.subset_refl _)]
      refine ⟨by simp [block_upper, Block.siblings], ?_⟩
      intro p hp
      rw [List.mem_singleton.mp hp]
      exact ⟨rfl, rfl⟩
    · -- the upper half is taken out
      cases h
      have hblock : other.block = n.block.upper := by rw [← hupper, block_upper]
      have hdiff : n.block.bits - other.block.bits = 1 := by
        have hpos := (Block.subset_half hsub hne).1
        rw [hblock]
        simp only [Block.upper]
        omega
      rw [Block.exclude, hdiff, siblings_of_upper (hblock ▸ Block.subset_refl _)]
      refine ⟨by simp [block_lower, Block.siblings], ?_⟩
      intro p hp
      rw [List.mem_singleton.mp hp]
      exact ⟨rfl, rfl⟩
    · -- the loop goes on in the lower half
      obtain ⟨qs, hqs, rfl⟩ := Option.map_eq_some_iff.mp h
      have hinside := block_subset_of_subnetOf hbelow
      have hproper : other.block ≠ (n.lower hroom).block :=
        fun heq => hlower (eq_of_subnetOf_of_block hbelow hv heq).symm
      obtain ⟨hblocks, hall⟩ := ih hqs hv hinside hproper
      have hlt := bits_lt hinside hproper
      have hdiff : n.block.bits - other.block.bits =
          ((n.lower hroom).block.bits - other.block.bits) + 1 := by
        rw [block_lower] at hlt ⊢
        simp only [Block.lower] at hlt ⊢
        omega
      refine ⟨?_, ?_⟩
      · rw [List.map_cons, hblocks, Block.exclude, Block.exclude, hdiff, block_upper, block_lower]
        rw [block_lower] at hinside
        exact (siblings_of_lower hinside).symm
      · intro p hp
        rcases List.mem_cons.mp hp with rfl | hp
        · exact ⟨rfl, rfl⟩
        · exact hall p hp
    · -- the loop goes on in the upper half
      obtain ⟨qs, hqs, rfl⟩ := Option.map_eq_some_iff.mp h
      have hinside := block_subset_of_subnetOf habove
      have hproper : other.block ≠ (n.upper hroom).block :=
        fun heq => hupper (eq_of_subnetOf_of_block habove hv heq).symm
      obtain ⟨hblocks, hall⟩ := ih hqs hv hinside hproper
      have hlt := bits_lt hinside hproper
      have hdiff : n.block.bits - other.block.bits =
          ((n.upper hroom).block.bits - other.block.bits) + 1 := by
        rw [block_upper] at hlt ⊢
        simp only [Block.upper] at hlt ⊢
        omega
      refine ⟨?_, ?_⟩
      · rw [List.map_cons, hblocks, Block.exclude, Block.exclude, hdiff, block_upper, block_lower]
        rw [block_upper] at hinside
        exact (siblings_of_upper hinside).symm
      · intro p hp
        rcases List.mem_cons.mp hp with rfl | hp
        · exact ⟨rfl, rfl⟩
        · exact hall p hp

/-- The loop reaches every unzoned network properly inside the other. -/
theorem excludeLoop_isSome {fuel : Nat} : ∀ {n other : IpNetwork}, other.version = n.version →
    other.zone = none → other.block ⊆ n.block → other.block ≠ n.block →
    n.block.bits - other.block.bits < fuel + 1 → (excludeLoop fuel n other).isSome = true := by
  induction fuel with
  | zero =>
    intro n other _ _ hsub hne hfuel
    have hlt := bits_lt hsub hne
    omega
  | succ fuel ih =>
    intro n other hv hz hsub hne hfuel
    have hlt := bits_lt hsub hne
    have hroom : n.prefixlen < n.version.bits := by
      have hbits : n.block.bits = n.version.bits - n.prefixlen := rfl
      omega
    rw [excludeLoop, dif_pos hroom]
    dsimp only
    split_ifs with hlower hupper hbelow habove
    · rfl
    · rfl
    · have hproper : other.block ≠ (n.lower hroom).block :=
        fun heq => hlower (eq_of_subnetOf_of_block hbelow hv heq).symm
      rw [Option.isSome_map]
      refine ih hv hz (block_subset_of_subnetOf hbelow) hproper ?_
      rw [block_lower]
      simp only [Block.lower]
      omega
    · have hproper : other.block ≠ (n.upper hroom).block :=
        fun heq => hupper (eq_of_subnetOf_of_block habove hv heq).symm
      rw [Option.isSome_map]
      refine ih hv hz (block_subset_of_subnetOf habove) hproper ?_
      rw [block_upper]
      simp only [Block.upper]
      omega
    · rcases (Block.subset_half hsub hne).2 with hhalf | hhalf
      · rw [← block_lower n hroom] at hhalf
        exact absurd (subnetOf_of_block_subset hhalf hz.symm) hbelow
      · rw [← block_upper n hroom] at hhalf
        exact absurd (subnetOf_of_block_subset hhalf hz.symm) habove

/-- **`address_exclude` gives the blocks that are left**, unzoned and of the same version. -/
theorem addressExclude_blocks {n other : IpNetwork} {ps : List IpNetwork}
    (h : n.addressExclude other = some ps) (hv : other.version = n.version)
    (hsub : other.subnetOf n) :
    ps.map block = Block.exclude n.block other.block ∧
      ∀ p ∈ ps, p.version = n.version ∧ p.zone = none := by
  unfold addressExclude at h
  split_ifs at h with heq
  · cases h
    rw [heq, Block.exclude, Nat.sub_self]
    exact ⟨rfl, fun p hp => absurd hp List.not_mem_nil⟩
  · exact excludeLoop_blocks h hv (block_subset_of_subnetOf hsub)
      fun hblock => heq (eq_of_subnetOf_of_block hsub hv hblock)

/-- `address_exclude` returns for every unzoned network inside the other. -/
theorem addressExclude_isSome {n other : IpNetwork} (hv : other.version = n.version)
    (hz : other.zone = none) (hsub : other.subnetOf n) :
    (n.addressExclude other).isSome = true := by
  unfold addressExclude
  split_ifs with heq
  · rfl
  · refine excludeLoop_isSome hv hz (block_subset_of_subnetOf hsub)
      (fun hblock => heq (eq_of_subnetOf_of_block hsub hv hblock)) ?_
    have hbits : n.block.bits = n.version.bits - n.prefixlen := rfl
    omega

end IpNetwork

end NightRecon.Lib.Ipaddress
