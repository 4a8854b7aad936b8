import NightRecon.Lib.Raises
import NightRecon.RedEngine.PcapImport

/-!
# Blocks of a next-generation capture

`nightrecon_red_engine/pcapng_import.py`: a capture file is walked block by block, each in the byte
order of the latest section, and the blocks are counted by kind.

* `parsePcapng` — the walk, where a read outside the buffer raises an error of its own;
* `Complete`, `Blocks` — the grammar: a complete block in a byte order, and the files that are made
  of blocks;
* `readBlock_eq_ok` — one turn reads exactly a complete block; `walk_eq_ok` — the walk reads exactly
  what is made of blocks, by induction on the blocks that may still be read;
* `parse_pcapng_law` — reads stay in the buffer, and acceptance and counts are those of the grammar.
-/

namespace NightRecon.RedEngine.PcapngImport

open NightRecon.Lib.Bytes
open NightRecon.Lib.Checks
open NightRecon.RedEngine.PcapImport
open NightRecon.RedEngine.ProtocolDissectors

def maxFileBytes : Nat := 32 * 1024 * 1024

def maxBlocks : Nat := 200000

def sectionMagic : List UInt8 := [0x0a, 0x0d, 0x0d, 0x0a]

/-- The kinds of blocks that are counted. -/
inductive Kind where
  | sectionHeader
  | interface
  | enhanced
  | simple
  | other
  deriving DecidableEq

/-- Source: `pcapng_import.py` `PcapngEvidence`. -/
structure PcapngEvidence where
  source : String
  sections : Nat
  interfaces : Nat
  enhancedPackets : Nat
  simplePackets : Nat
  otherBlocks : Nat
  deriving DecidableEq

/-! ## The walk -/

/-- The byte-order magic of a section. -/
def orderMagic : Endian → List UInt8
  | .little => [0x4d, 0x3c, 0x2b, 0x1a]
  | .big => [0x1a, 0x2b, 0x3c, 0x4d]

def byteOrder (bom : List UInt8) : Py Endian :=
  if bom = orderMagic .little then return .little
  else if bom = orderMagic .big then return .big
  else .error (valueError "Invalid PCAPNG byte-order magic")

/-- The kind of a block that is no section. -/
def kindOf (blockType : Nat) : Kind :=
  if blockType = 1 then .interface
  else if blockType = 6 then .enhanced
  else if blockType = 3 then .simple
  else .other

/-- The check of the size of a block of a kind. -/
def checkSize (kind : Kind) (total : Nat) : Py Unit :=
  match kind with
  | .sectionHeader => raiseIf (total < 28) (valueError "Invalid PCAPNG section size")
  | .enhanced => raiseIf (total < 32) (valueError "Invalid enhanced packet block")
  | .simple => raiseIf (total < 16) (valueError "Invalid simple packet block")
  | .interface | .other => return

/-- A block that was read. -/
structure Block where
  order : Endian
  kind : Kind
  total : Nat

/-- The byte order in which the block at `offset` is read. -/
def orderAt (data : List UInt8) (offset : Nat) (endian : Option Endian) : Py Endian :=
  if slice data offset 4 = sectionMagic then do
    raiseIf (data.length - offset < 28) (valueError "Truncated PCAPNG section")
    byteOrder (slice data (offset + 8) 4)
  else getOrRaise endian (valueError "PCAPNG block without section")

/-- One turn: the block at `offset`. -/
def readBlock (data : List UInt8) (offset : Nat) (endian : Option Endian) : Py Block := do
  raiseIf (data.length - offset < 12) (valueError "Truncated PCAPNG block")
  let order ← orderAt data offset endian
  let head ← unpackFrom data 8 offset
  let blockType := order.number (slice head 0 4)
  let total := order.number (slice head 4 4)
  raiseIf (total < 12 ∨ total % 4 ≠ 0 ∨ data.length < offset + total)
    (valueError "Invalid PCAPNG block length")
  let trailing ← unpackFrom data 4 (offset + total - 4)
  raiseIf (order.number trailing ≠ total) (valueError "Inconsistent PCAPNG block length")
  let kind := if slice data offset 4 = sectionMagic then .sectionHeader else kindOf blockType
  checkSize kind total
  return ⟨order, kind, total⟩

/-- One more block of a kind. -/
def PcapngEvidence.count (e : PcapngEvidence) : Kind → PcapngEvidence
  | .sectionHeader => { e with sections := e.sections + 1 }
  | .interface => { e with interfaces := e.interfaces + 1 }
  | .enhanced => { e with enhancedPackets := e.enhancedPackets + 1 }
  | .simple => { e with simplePackets := e.simplePackets + 1 }
  | .other => { e with otherBlocks := e.otherBlocks + 1 }

theorem kindOf_ne_section (blockType : Nat) : kindOf blockType ≠ .sectionHeader := by
  unfold kindOf
  split_ifs <;> simp

/-- The loop over the blocks; `left` blocks may still be read. -/
def walk (data : List UInt8) :
    Nat → Nat → Option Endian → PcapngEvidence → Py PcapngEvidence
  | left, offset, endian, evidence =>
    if offset < data.length then
      match left with
      | 0 => .error (valueError "Too many PCAPNG blocks")
      | left + 1 => do
        let block ← readBlock data offset endian
        walk data left (offset + block.total) (some block.order) (evidence.count block.kind)
    else return evidence

/-- Source: `pcapng_import.py` `parse_pcapng`. -/
def parsePcapng (data : List UInt8) : Py PcapngEvidence := do
  raiseIf (maxFileBytes < data.length) (valueError "PCAPNG exceeds size limit")
  raiseIf (slice data 0 4 ≠ sectionMagic) (valueError "Expected PCAPNG section header")
  raiseIf (data.length < 28) (valueError "Invalid PCAPNG section length")
  walk data maxBlocks 0 none ⟨"pcapng-blocks-unverified", 0, 0, 0, 0, 0⟩

/-! ## The grammar -/

/-- The least size of a block of a kind. -/
def leastSize : Kind → Nat
  | .sectionHeader => 28
  | .enhanced => 32
  | .simple => 16
  | .interface | .other => 12

theorem twelve_le_leastSize (kind : Kind) : 12 ≤ leastSize kind := by
  cases kind <;> decide

/-- **A complete block** of a kind in a byte order: its length, a multiple of four and not below the
least size, stands behind its type and at its end; a section names the byte order. -/
structure Complete (order : Endian) (kind : Kind) (block : List UInt8) : Prop where
  least : leastSize kind ≤ block.length
  aligned : block.length % 4 = 0
  fits : block.length < 256 ^ 4
  front : slice block 4 4 = order.bytes 4 block.length
  back : slice block (block.length - 4) 4 = order.bytes 4 block.length
  section_iff : kind = .sectionHeader ↔ slice block 0 4 = sectionMagic
  magic : kind = .sectionHeader → slice block 8 4 = orderMagic order
  kind_eq : kind ≠ .sectionHeader → kind = kindOf (order.number (slice block 0 4))

/-- **Bytes that are made of blocks** of these kinds, each in the byte order of the latest section;
`endian` is the byte order in front of them. -/
inductive Blocks : Option Endian → List Kind → List UInt8 → Prop
  | nil (endian : Option Endian) : Blocks endian [] []
  | header {endian : Option Endian} {order : Endian} {kinds : List Kind}
      {block rest : List UInt8} :
      Complete order .sectionHeader block → Blocks (some order) kinds rest →
      Blocks endian (.sectionHeader :: kinds) (block ++ rest)
  | block {order : Endian} {kind : Kind} {kinds : List Kind} {block rest : List UInt8} :
      kind ≠ .sectionHeader → Complete order kind block → Blocks (some order) kinds rest →
      Blocks (some order) (kind :: kinds) (block ++ rest)

theorem Blocks.kinds_nil {endian : Option Endian} {kinds : List Kind} (h : Blocks endian kinds []) :
    kinds = [] := by
  generalize hdata : ([] : List UInt8) = data at h
  cases h with
  | nil => rfl
  | @header _ order kinds block rest hcomplete _ =>
    have hlength := hcomplete.least
    rw [(List.append_eq_nil_iff.mp hdata.symm).1] at hlength
    exact absurd hlength (by decide)
  | @block order kind kinds block rest _ hcomplete _ =>
    have hlength := (twelve_le_leastSize kind).trans hcomplete.least
    rw [(List.append_eq_nil_iff.mp hdata.symm).1] at hlength
    exact absurd hlength (by decide)

/-- The first block of bytes that are made of blocks. -/
theorem Blocks.first {endian : Option Endian} {kinds : List Kind} {data : List UInt8}
    (h : Blocks endian kinds data) (hne : data ≠ []) :
    ∃ order kind block rest kinds', data = block ++ rest ∧ kinds = kind :: kinds' ∧
      Complete order kind block ∧ Blocks (some order) kinds' rest ∧
        (kind = .sectionHeader ∨ endian = some order) := by
  cases h with
  | nil => exact absurd rfl hne
  | header hcomplete hrest => exact ⟨_, _, _, _, _, rfl, rfl, hcomplete, hrest, .inl rfl⟩
  | block _ hcomplete hrest => exact ⟨_, _, _, _, _, rfl, rfl, hcomplete, hrest, .inr rfl⟩

/-- The numbers of the blocks of each kind. -/
def evidenceOf (kinds : List Kind) : PcapngEvidence :=
  ⟨"pcapng-blocks-unverified", kinds.count .sectionHeader, kinds.count .interface,
    kinds.count .enhanced, kinds.count .simple, kinds.count .other⟩

/-! ## One turn -/

section Turn

variable {data : List UInt8} {offset : Nat}

theorem slice_slice {i k total : Nat} (h : i + k ≤ total) :
    slice (slice data offset total) i k = slice data (offset + i) k := by
  rw [slice, slice, slice, List.drop_take, List.take_take, List.drop_drop,
    Nat.min_eq_left (by omega)]

theorem byteOrder_eq_ok {bom : List UInt8} {order : Endian} :
    byteOrder bom = .ok order ↔ bom = orderMagic order := by
  unfold byteOrder
  constructor
  · intro h
    split at h
    · next hlittle =>
      obtain rfl := Except.ok.inj h
      exact hlittle
    · split at h
      · next hbig =>
        obtain rfl := Except.ok.inj h
        exact hbig
      · exact absurd h (by simp)
  · rintro rfl
    cases order with
    | little => rfl
    | big => rfl

theorem orderAt_eq_ok {endian : Option Endian} {order : Endian} :
    orderAt data offset endian = .ok order ↔
      if slice data offset 4 = sectionMagic then
        ¬ data.length - offset < 28 ∧ slice data (offset + 8) 4 = orderMagic order
      else endian = some order := by
  unfold orderAt
  split
  · rw [raiseIf_bind_eq_ok, byteOrder_eq_ok]
  · rw [getOrRaise_eq_ok]

theorem checkSize_eq_ok {kind : Kind} {total : Nat} (h : 12 ≤ total) :
    checkSize kind total = .ok () ↔ leastSize kind ≤ total := by
  cases kind with
  | sectionHeader => rw [checkSize, raiseIf_eq_ok, leastSize, not_lt]
  | enhanced => rw [checkSize, raiseIf_eq_ok, leastSize, not_lt]
  | simple => rw [checkSize, raiseIf_eq_ok, leastSize, not_lt]
  | interface => exact iff_of_true rfl h
  | other => exact iff_of_true rfl h

/-- A number is read exactly where its bytes stand. -/
theorem number_eq_iff (order : Endian) {bytes : List UInt8} {n w : Nat} (hlength : bytes.length = w)
    (hn : n < 256 ^ w) : order.number bytes = n ↔ bytes = order.bytes w n := by
  constructor
  · rintro rfl
    cases order with
    | little =>
      have hread : beBytes w (bigEndian bytes.reverse) = bytes.reverse :=
        beBytes_bigEndian (by rw [List.length_reverse, hlength])
      exact (List.reverse_injective hread).symm
    | big => exact (beBytes_bigEndian hlength).symm
  · rintro rfl
    exact order.number_bytes hn

theorem bigEndian_lt (bytes : List UInt8) : bigEndian bytes < 256 ^ bytes.length := by
  rw [bigEndian_eq_ofDigits]
  have hlt : Nat.ofDigits 256 (bytes.reverse.map UInt8.toNat) <
      256 ^ (bytes.reverse.map UInt8.toNat).length := by
    apply Nat.ofDigits_lt_base_pow_length (by decide)
    intro n hn
    obtain ⟨b, -, rfl⟩ := List.mem_map.mp hn
    exact b.toNat_lt
  rwa [List.length_map, List.length_reverse] at hlt

theorem number_lt (order : Endian) {bytes : List UInt8} {w : Nat} (hlength : bytes.length = w) :
    order.number bytes < 256 ^ w := by
  cases order with
  | little =>
    have hlt := bigEndian_lt bytes.reverse
    rwa [List.length_reverse, hlength] at hlt
  | big =>
    have hlt := bigEndian_lt bytes
    rwa [hlength] at hlt

/-- **One turn reads a complete block**, in its own byte order if it is a section, and in the byte
order of the latest section otherwise. -/
theorem readBlock_eq_ok {endian : Option Endian} {b : Block} :
    readBlock data offset endian = .ok b ↔
      offset + b.total ≤ data.length ∧
        Complete b.order b.kind (slice data offset b.total) ∧
        (b.kind = .sectionHeader ∨ endian = some b.order) := by
  constructor
  · intro h
    unfold readBlock at h
    rw [raiseIf_bind_eq_ok] at h
    obtain ⟨hroom, h⟩ := h
    obtain ⟨order, horder, h⟩ := bind_eq_ok.mp h
    rw [unpackFrom_of_le (by omega), ok_bind] at h
    rw [slice_slice (by omega), slice_slice (by omega), Nat.add_zero] at h
    dsimp only at h
    have hlength : (slice data (offset + 4) 4).length = 4 := length_slice (by omega)
    generalize htotal : order.number (slice data (offset + 4) 4) = total at h
    have hfits : total < 256 ^ 4 := htotal ▸ number_lt order hlength
    rw [raiseIf_bind_eq_ok] at h
    obtain ⟨hsize, h⟩ := h
    simp only [not_or, not_lt, not_not] at hsize
    obtain ⟨hleast, haligned, hinside⟩ := hsize
    rw [unpackFrom_of_le (by omega), ok_bind, raiseIf_bind_eq_ok, not_not] at h
    obtain ⟨htrailing, h⟩ := h
    rw [unit_bind_eq_ok, checkSize_eq_ok hleast] at h
    obtain ⟨hkind, h⟩ := h
    obtain rfl := Except.ok.inj h
    dsimp only
    have hblock : (slice data offset total).length = total := length_slice hinside
    have hlast : offset + total - 4 = offset + (total - 4) := by omega
    rw [number_eq_iff order (length_slice (by omega)) hfits, hlast] at htrailing
    rw [number_eq_iff order hlength hfits] at htotal
    rw [orderAt_eq_ok] at horder
    refine ⟨hinside, ⟨?_, ?_, ?_, ?_, ?_, ?_, ?_, ?_⟩, ?_⟩
    · rwa [hblock]
    · rwa [hblock]
    · rwa [hblock]
    · rwa [hblock, slice_slice (by omega)]
    · rwa [hblock, slice_slice (by omega)]
    · rw [slice_slice (by omega), Nat.add_zero]
      split
      · next hsection => exact iff_of_true rfl hsection
      · next hsection => exact iff_of_false (kindOf_ne_section _) hsection
    · intro hsection
      split at hsection
      · next hmagic =>
        rw [if_pos hmagic] at horder hkind
        rw [slice_slice (by rw [leastSize] at hkind; omega)]
        exact horder.2
      · exact absurd hsection (kindOf_ne_section _)
    · intro hother
      split at hother
      · exact absurd rfl hother
      · next hmagic => rw [if_neg hmagic, slice_slice (by omega), Nat.add_zero]
    · split
      · exact .inl rfl
      · next hmagic =>
        rw [if_neg hmagic] at horder
        exact .inr horder
  · rintro ⟨hinside, hcomplete, hendian⟩
    have hblock : (slice data offset b.total).length = b.total := length_slice hinside
    obtain ⟨hleast, haligned, hfits, hfront, hback, hsection, hmagic, hkind⟩ := hcomplete
    rw [hblock] at hleast haligned hfits hfront hback
    have htwelve : 12 ≤ b.total := le_trans (twelve_le_leastSize b.kind) hleast
    rw [slice_slice (by omega)] at hfront hback
    rw [slice_slice (by omega), Nat.add_zero] at hsection
    have horder : orderAt data offset endian = .ok b.order := by
      rw [orderAt_eq_ok]
      split
      · next hstart =>
        have hsec := hsection.mpr hstart
        have hmagic' := hmagic hsec
        rw [hsec, leastSize] at hleast
        rw [slice_slice (by omega)] at hmagic'
        exact ⟨by omega, hmagic'⟩
      · next hstart => exact hendian.resolve_left fun hsec => hstart (hsection.mp hsec)
    have hfirst : b.order.number (slice data (offset + 4) 4) = b.total :=
      (number_eq_iff b.order (length_slice (by omega)) hfits).mpr hfront
    have hlast : offset + b.total - 4 = offset + (b.total - 4) := by omega
    have htrailing : b.order.number (slice data (offset + b.total - 4) 4) = b.total := by
      rw [hlast]
      exact (number_eq_iff b.order (length_slice (by omega)) hfits).mpr hback
    have hkind' : (if slice data offset 4 = sectionMagic then Kind.sectionHeader
        else kindOf (b.order.number (slice data offset 4))) = b.kind := by
      split
      · next hstart => exact (hsection.mpr hstart).symm
      · next hstart =>
        rw [hkind fun hsec => hstart (hsection.mp hsec), slice_slice (by omega), Nat.add_zero]
    unfold readBlock
    rw [raiseIf_of_not (by omega), ok_bind, horder, ok_bind, unpackFrom_of_le (by omega), ok_bind,
      slice_slice (by omega), slice_slice (by omega), Nat.add_zero]
    dsimp only
    rw [hfirst, raiseIf_of_not (by omega), ok_bind, unpackFrom_of_le (by omega), ok_bind,
      htrailing, raiseIf_of_not (not_not.mpr rfl), ok_bind, hkind',
      (checkSize_eq_ok htwelve).mpr hleast]
    rfl

end Turn

/-! ## The walk reads what is made of blocks -/

section Walk

variable {data : List UInt8}

/-- The counts of some blocks, behind the counts of others. -/
theorem foldl_count (kinds : List Kind) (e : PcapngEvidence) :
    kinds.foldl PcapngEvidence.count e =
      ⟨e.source, e.sections + kinds.count .sectionHeader, e.interfaces + kinds.count .interface,
        e.enhancedPackets + kinds.count .enhanced, e.simplePackets + kinds.count .simple,
        e.otherBlocks + kinds.count .other⟩ := by
  induction kinds generalizing e with
  | nil => rfl
  | cons kind kinds ih =>
    rw [List.foldl_cons, ih]
    cases kind <;> simp [PcapngEvidence.count] <;> omega

/-- **The walk** ends exactly where the rest is made of at most as many blocks as may be read, and
it counts them. -/
theorem walk_eq_ok {left offset : Nat} {endian : Option Endian} {e evidence : PcapngEvidence} :
    walk data left offset endian e = .ok evidence ↔
      ∃ kinds, kinds.length ≤ left ∧ Blocks endian kinds (data.drop offset) ∧
        evidence = kinds.foldl PcapngEvidence.count e := by
  induction left generalizing offset endian e with
  | zero =>
    rw [walk]
    by_cases hmore : offset < data.length
    · rw [if_pos hmore]
      refine iff_of_false (by simp) ?_
      rintro ⟨kinds, hlength, hblocks, -⟩
      obtain rfl := List.length_eq_zero_iff.mp (Nat.le_zero.mp hlength)
      generalize hrest : data.drop offset = rest at hblocks
      cases hblocks
      rw [List.drop_eq_nil_iff] at hrest
      omega
    · rw [if_neg hmore, pure_eq_ok, Except.ok.injEq]
      have hrest : data.drop offset = [] := List.drop_eq_nil_iff.mpr (by omega)
      rw [hrest]
      constructor
      · rintro rfl
        exact ⟨[], le_rfl, .nil endian, rfl⟩
      · rintro ⟨kinds, hlength, -, rfl⟩
        obtain rfl := List.length_eq_zero_iff.mp (Nat.le_zero.mp hlength)
        rfl
  | succ left ih =>
    rw [walk]
    by_cases hmore : offset < data.length
    · rw [if_pos hmore, bind_eq_ok]
      constructor
      · rintro ⟨b, hb, hwalk⟩
        obtain ⟨hinside, hcomplete, hendian⟩ := readBlock_eq_ok.mp hb
        obtain ⟨kinds, hlength, hblocks, rfl⟩ := ih.mp hwalk
        refine ⟨b.kind :: kinds, Nat.succ_le_succ hlength, ?_, rfl⟩
        rw [drop_eq_slice data offset b.total]
        by_cases hsection : b.kind = .sectionHeader
        · rw [hsection] at hcomplete ⊢
          exact .header hcomplete hblocks
        · rw [hendian.resolve_left hsection]
          exact .block hsection hcomplete hblocks
      · rintro ⟨kinds, hlength, hblocks, rfl⟩
        obtain ⟨order, kind, block, rest, kinds', hdrop, hkinds, hcomplete, hrest, hendian⟩ :=
          hblocks.first (by rw [Ne, List.drop_eq_nil_iff]; omega)
        subst hkinds
        have hinside : offset + block.length ≤ data.length := by
          have hlengths := congrArg List.length hdrop
          rw [List.length_drop, List.length_append] at hlengths
          omega
        have hblock : slice data offset block.length = block := by
          rw [slice, hdrop, List.take_left]
        have hafter : data.drop (offset + block.length) = rest := by
          rw [← List.drop_drop, hdrop, List.drop_left]
        refine ⟨⟨order, kind, block.length⟩, readBlock_eq_ok.mpr ⟨hinside, ?_, hendian⟩,
          ih.mpr ⟨kinds', Nat.le_of_succ_le_succ hlength, ?_, rfl⟩⟩
        · rwa [hblock]
        · rwa [hafter]
    · rw [if_neg hmore, pure_eq_ok, Except.ok.injEq]
      have hrest : data.drop offset = [] := List.drop_eq_nil_iff.mpr (by omega)
      rw [hrest]
      constructor
      · rintro rfl
        exact ⟨[], Nat.zero_le _, .nil endian, rfl⟩
      · rintro ⟨kinds, -, hblocks, rfl⟩
        rw [hblocks.kinds_nil]
        rfl

end Walk

/-! ## Reads -/

/-- **One turn stays inside the buffer.** -/
theorem readBlock_raises (data : List UInt8) (offset : Nat) (endian : Option Endian) :
    Raises Exn.IsValueError (readBlock data offset endian) := by
  have hvalue := isValueError_valueError
  unfold readBlock
  by_cases hroom : data.length - offset < 12
  · rw [raiseIf, if_pos hroom]
    exact Raises.error (hvalue _)
  rw [raiseIf_of_not hroom, ok_bind]
  refine Raises.bind ?_ fun order _ => ?_
  · unfold orderAt byteOrder
    split
    · apply Raises.bind (Raises.raiseIf (hvalue _))
      intro _ _
      split
      · exact Raises.pure _
      · split
        · exact Raises.pure _
        · exact Raises.error (hvalue _)
    · exact Raises.getOrRaise (hvalue _)
  rw [unpackFrom_of_le (by omega), ok_bind]
  dsimp only
  generalize order.number (slice (slice data offset 8) 4 4) = total
  by_cases hsize : total < 12 ∨ total % 4 ≠ 0 ∨ data.length < offset + total
  · rw [raiseIf, if_pos hsize]
    exact Raises.error (hvalue _)
  rw [raiseIf_of_not hsize, ok_bind, unpackFrom_of_le (by omega), ok_bind]
  apply Raises.bind (Raises.raiseIf (hvalue _))
  intro _ _
  refine Raises.bind ?_ fun _ _ => Raises.pure _
  unfold checkSize
  split
  · exact Raises.raiseIf (hvalue _)
  · exact Raises.raiseIf (hvalue _)
  · exact Raises.raiseIf (hvalue _)
  · exact Raises.pure _
  · exact Raises.pure _

theorem walk_raises (data : List UInt8) (left offset : Nat) (endian : Option Endian)
    (e : PcapngEvidence) : Raises Exn.IsValueError (walk data left offset endian e) := by
  induction left generalizing offset endian e with
  | zero =>
    rw [walk]
    split
    · exact Raises.error (isValueError_valueError _)
    · exact Raises.pure _
  | succ left ih =>
    rw [walk]
    split
    · exact Raises.bind (readBlock_raises data offset endian) fun b _ => ih _ _ _
    · exact Raises.pure _

/-! ## The law -/

/-- **A capture is read** exactly when it is made of at most `maxBlocks` blocks, at least one; its
blocks are counted by kind, and every error is a `ValueError`: no read leaves the buffer. -/
theorem parse_pcapng_law (data : List UInt8) :
    Raises Exn.IsValueError (parsePcapng data) ∧
      ∀ evidence, parsePcapng data = .ok evidence ↔
        data.length ≤ maxFileBytes ∧ ∃ kinds, 1 ≤ kinds.length ∧ kinds.length ≤ maxBlocks ∧
          Blocks none kinds data ∧ evidence = evidenceOf kinds := by
  have hcounts : ∀ kinds : List Kind, kinds.foldl PcapngEvidence.count
      ⟨"pcapng-blocks-unverified", 0, 0, 0, 0, 0⟩ = evidenceOf kinds := by
    intro kinds
    rw [foldl_count]
    simp only [Nat.zero_add, evidenceOf]
  refine ⟨?_, fun evidence => ?_⟩
  · have hvalue := isValueError_valueError
    unfold parsePcapng
    apply Raises.bind (Raises.raiseIf (hvalue _))
    intro _ _
    apply Raises.bind (Raises.raiseIf (hvalue _))
    intro _ _
    apply Raises.bind (Raises.raiseIf (hvalue _))
    intro _ _
    exact walk_raises data maxBlocks 0 none _
  · unfold parsePcapng
    rw [raiseIf_bind_eq_ok, raiseIf_bind_eq_ok, raiseIf_bind_eq_ok, walk_eq_ok, not_lt, not_not,
      not_lt, List.drop_zero]
    constructor
    · rintro ⟨hlimit, -, hlength, kinds, hleft, hblocks, rfl⟩
      refine ⟨hlimit, kinds, ?_, hleft, hblocks, hcounts kinds⟩
      by_contra hnone
      obtain rfl := List.length_eq_zero_iff.mp (by omega : kinds.length = 0)
      cases hblocks
      simp at hlength
    · rintro ⟨hlimit, kinds, hone, hleft, hblocks, rfl⟩
      have hne : data ≠ [] := by
        rintro rfl
        rw [hblocks.kinds_nil] at hone
        exact absurd hone (by decide)
      -- the first block is a section
      obtain ⟨order, kind, block, rest, kinds', rfl, -, hcomplete, -, hkind⟩ := hblocks.first hne
      have hheader := hkind.resolve_right (by simp)
      have hlength := hcomplete.least
      rw [hheader, leastSize] at hlength
      have hmagic := hcomplete.section_iff.mp hheader
      refine ⟨hlimit, ?_, ?_, kinds, hleft, hblocks, (hcounts kinds).symm⟩
      · rw [slice, List.drop_zero] at hmagic ⊢
        rwa [List.take_append_of_le_length (by omega)]
      · rw [List.length_append]
        omega

end NightRecon.RedEngine.PcapngImport
