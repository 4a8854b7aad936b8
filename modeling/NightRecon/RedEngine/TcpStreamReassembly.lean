import Mathlib.Algebra.BigOperators.Group.List.Basic
import Mathlib.Algebra.GroupWithZero.Nat
import Mathlib.Algebra.Order.BigOperators.Group.List
import Mathlib.Data.Prod.Lex
import NightRecon.Lib.Records
import NightRecon.RedEngine.ProtocolDissectors

/-!
# Reassembly of TCP streams

`nightrecon_red_engine/tcp_stream_reassembly.py`: segments are put in the order of their sequence
numbers and merged in one pass.

* `TcpSegment`, `ReassembledStream`, `reassembleTcpSegments`;
* `Covered`, `runLength` — the bytes that some segment carries, and the contiguous run of them;
* `Slices` — the segments are slices of one stream;
* `Merged` — what the pass has put together, the invariant of its turns; `merge_describes`;
* `reassembled_iff` — the reassembly of every stream.
-/

namespace NightRecon.RedEngine.TcpStreamReassembly

open NightRecon.Lib
open NightRecon.Lib.Checks
open NightRecon.Lib.Records
open NightRecon.Lib.Text
open NightRecon.RedEngine.ProtocolDissectors

def maxReassembledStreamBytes : Nat := 262144

def maxStreamSegments : Nat := 4096

/-- A segment of a named packet.  Source: `tcp_stream_reassembly.py` `TcpSegment`. -/
structure TcpSegment where
  packetId : String
  sequence : Nat
  payload : List UInt8
  packetId_nonblank : strip packetId ≠ ""

/-- Source: `tcp_stream_reassembly.py` `ReassembledStream`. -/
structure ReassembledStream where
  packetIds : List String
  bytesReassembled : Nat
  sha256 : String
  truncated : Bool
  gapsDetected : Bool
  protocol : Option ProtocolMetadata

/-- The key of the pass: the sequence number, then the packet. -/
def TcpSegment.key (s : TcpSegment) : Nat ×ₗ String := toLex (s.sequence, s.packetId)

/-- What the pass has put together so far; it has stopped once a gap was met or bytes were
dropped. -/
structure Merge where
  buffer : List UInt8
  packetIds : List String
  gaps : Bool
  truncated : Bool

def Merge.start : Merge := ⟨[], [], false, false⟩

/-- One turn of the pass, from `base`.
Source: `tcp_stream_reassembly.py` `reassemble_tcp_segments`. -/
def mergeSegment (base maxBytes : Nat) (m : Merge) (segment : TcpSegment) : Merge :=
  if segment.payload = [] then m
  else
    let offset := segment.sequence - base
    if m.buffer.length < offset then { m with gaps := true }
    else
      let data := segment.payload.drop (m.buffer.length - offset)
      if data = [] then { m with packetIds := m.packetIds ++ [segment.packetId] }
      else
        let remaining := maxBytes - m.buffer.length
        if remaining = 0 then { m with truncated := true }
        else if remaining < data.length then
          { m with
            buffer := m.buffer ++ data.take remaining
            packetIds := m.packetIds ++ [segment.packetId]
            truncated := true }
        else
          { m with buffer := m.buffer ++ data, packetIds := m.packetIds ++ [segment.packetId] }

/-- The pass over the ordered segments. -/
def mergeSegments (base maxBytes : Nat) : Merge → List TcpSegment → Merge
  | m, [] => m
  | m, segment :: rest =>
      let m' := mergeSegment base maxBytes m segment
      if m'.gaps ∨ m'.truncated then m' else mergeSegments base maxBytes m' rest

/-- `hashlib.sha256(raw).hexdigest()`. -/
def digestOf (raw : List UInt8) : String :=
  Sha256.hexdigest (Sha256.sha256 (raw.map UInt8.toNat))

section Reassembly

variable (upper : String → String) (srcPort dstPort : Option Int)

/-- The protocol of what was put together. -/
def protocolOf (raw : List UInt8) : Py (Option ProtocolMetadata) :=
  if raw = [] then .ok none else dissectPayload upper raw srcPort dstPort

/-- Source: `tcp_stream_reassembly.py` `reassemble_tcp_segments`. -/
def reassembleTcpSegments (segments : List TcpSegment) (maxBytes : Nat) : Py ReassembledStream := do
  let first ← getOrRaise segments.head? (valueError "at least one TCP segment is required")
  raiseIf (maxStreamSegments < segments.length)
    (valueError ("segment count exceeds MAX_STREAM_SEGMENTS=" ++ toString maxStreamSegments))
  raiseIf (maxBytes < 1 ∨ maxReassembledStreamBytes < maxBytes)
    (valueError ("max_bytes must be between 1 and " ++ toString maxReassembledStreamBytes))
  let ordered := segments.insertionSort fun a b => a.key ≤ b.key
  let base := (ordered.headD first).sequence
  let m := mergeSegments base maxBytes .start ordered
  let protocol ← protocolOf upper srcPort dstPort m.buffer
  return ⟨m.packetIds.dedup, m.buffer.length, digestOf m.buffer, m.truncated, m.gaps, protocol⟩

end Reassembly

/-! ## The contiguous run -/

/-- Some segment carries the byte of this sequence number. -/
def Covered (segments : List TcpSegment) (q : Nat) : Prop :=
  ∃ s ∈ segments, s.sequence ≤ q ∧ q < s.sequence + s.payload.length

instance (segments : List TcpSegment) : DecidablePred (Covered segments) := fun q =>
  inferInstanceAs (Decidable (∃ s ∈ segments, s.sequence ≤ q ∧ q < s.sequence + s.payload.length))

theorem exists_uncovered (segments : List TcpSegment) (base : Nat) :
    ∃ n, ¬ Covered segments (base + n) := by
  refine ⟨(segments.map fun s => s.sequence + s.payload.length).sum, ?_⟩
  rintro ⟨s, hs, -, hlt⟩
  have hle := List.single_le_sum (fun _ _ => Nat.zero_le _) _
    (List.mem_map_of_mem (f := fun s : TcpSegment => s.sequence + s.payload.length) hs)
  omega

/-- The length of the contiguous run of carried bytes from `base`. -/
def runLength (segments : List TcpSegment) (base : Nat) : Nat :=
  Nat.find (exists_uncovered segments base)

theorem runLength_eq {segments : List TcpSegment} {base n : Nat}
    (hcovered : ∀ i < n, Covered segments (base + i)) (hend : ¬ Covered segments (base + n)) :
    runLength segments base = n := by
  rw [runLength, Nat.find_eq_iff]
  exact ⟨hend, fun i hi hnot => hnot (hcovered i hi)⟩

theorem lt_runLength {segments : List TcpSegment} {base n : Nat}
    (hcovered : ∀ i ≤ n, Covered segments (base + i)) : n < runLength segments base := by
  rw [runLength, Nat.lt_find_iff]
  exact fun i hi hnot => hnot (hcovered i hi)

/-- The smallest sequence number. -/
def smallestSequence (segments : List TcpSegment) : Nat :=
  ((segments.map (·.sequence)).min?).getD 0

/-- Segments of differing packets whose payloads are slices of the stream `bytes`, which starts at
the sequence number `b`. -/
structure Slices (bytes : List UInt8) (b : Nat) (segments : List TcpSegment) : Prop where
  distinct : (segments.map (·.packetId)).Nodup
  slice : ∀ s ∈ segments, s.payload ≠ [] → b ≤ s.sequence ∧
    ∃ n, s.payload = (bytes.drop (s.sequence - b)).take n

/-! ## The pass -/

/-- A prefix of a stream and the next bytes of it. -/
theorem take_append_next (stream : List UInt8) (len k : Nat) :
    stream.take len ++ (stream.drop len).take k =
      stream.take (len + ((stream.drop len).take k).length) := by
  rw [List.take_add]
  congr 1
  rw [List.length_take]
  rcases Nat.le_total k (stream.drop len).length with hle | hle
  · rw [Nat.min_eq_left hle]
  · rw [Nat.min_eq_right hle, List.take_of_length_le hle, List.take_length]

section Pass

variable {bytes : List UInt8} {b base maxBytes : Nat} {segments done rest : List TcpSegment}
  {m : Merge} {s : TcpSegment}

/-- What the pass has put together from the segments that are done. -/
structure Merged (bytes : List UInt8) (b base maxBytes : Nat) (segments done : List TcpSegment)
    (m : Merge) : Prop where
  buffer : m.buffer = (bytes.drop (base - b)).take m.buffer.length
  start : m.buffer ≠ [] → b ≤ base
  covered : ∀ i < m.buffer.length, Covered segments (base + i)
  ends : ∀ s ∈ done, s.payload ≠ [] → s.sequence + s.payload.length ≤ base + m.buffer.length
  fits : m.buffer.length ≤ maxBytes
  noGaps : m.gaps = false
  whole : m.truncated = false

/-- What the whole pass gives. -/
structure Result (bytes : List UInt8) (b base maxBytes : Nat) (segments : List TcpSegment)
    (m : Merge) : Prop where
  buffer : m.buffer = (bytes.drop (base - b)).take (min (runLength segments base) maxBytes)
  length : m.buffer.length = min (runLength segments base) maxBytes
  gaps : m.gaps = true ↔ runLength segments base ≤ maxBytes ∧
    ∃ s ∈ segments, s.payload ≠ [] ∧ base + runLength segments base < s.sequence
  truncated : m.truncated = true ↔ maxBytes < runLength segments base

theorem merged_start : Merged bytes b base maxBytes segments [] .start := by
  refine ⟨rfl, fun h => absurd rfl h, ?_, ?_, Nat.zero_le _, rfl, rfl⟩
  · intro i hi
    exact absurd hi (Nat.not_lt_zero i)
  · intro s hs
    exact absurd hs List.not_mem_nil

/-- The run ends where the buffer does, once every other segment starts behind it. -/
theorem Merged.runLength_eq (h : Merged bytes b base maxBytes segments done m)
    (hmem : ∀ s, s ∈ segments ↔ s ∈ done ∨ s ∈ rest)
    (hrest : ∀ s ∈ rest, s.payload ≠ [] → base + m.buffer.length < s.sequence) :
    runLength segments base = m.buffer.length := by
  apply TcpStreamReassembly.runLength_eq h.covered
  rintro ⟨s, hs, hle, hlt⟩
  have hne : s.payload ≠ [] := by
    intro hnil
    rw [hnil, List.length_nil] at hlt
    omega
  rcases (hmem s).mp hs with hdone | hs
  · have hend := h.ends s hdone hne
    omega
  · have hstart := hrest s hs hne
    omega

/-- **The pass is over without a gap.** -/
theorem Merged.result (h : Merged bytes b base maxBytes segments done m)
    (hmem : ∀ s, s ∈ segments ↔ s ∈ done) : Result bytes b base maxBytes segments m := by
  have hmem' : ∀ s, s ∈ segments ↔ s ∈ done ∨ s ∈ ([] : List TcpSegment) := by
    intro s
    rw [hmem, or_iff_left List.not_mem_nil]
  have hrun := h.runLength_eq hmem' fun s hs => absurd hs List.not_mem_nil
  have hfits := h.fits
  refine ⟨?_, ?_, ?_, ?_⟩
  · rw [hrun, Nat.min_eq_left hfits]
    exact h.buffer
  · rw [hrun, Nat.min_eq_left hfits]
  · rw [h.noGaps, hrun]
    refine iff_of_false Bool.false_ne_true ?_
    rintro ⟨-, s, hs, hne, hlt⟩
    have hend := h.ends s ((hmem s).mp hs) hne
    omega
  · rw [h.whole, hrun]
    exact iff_of_false Bool.false_ne_true (Nat.not_lt.mpr hfits)

/-- **A segment behind the buffer is a gap.** -/
theorem Merged.gap (h : Merged bytes b base maxBytes segments done m)
    (hmem : ∀ t, t ∈ segments ↔ t ∈ done ∨ t ∈ s :: rest)
    (hsorted : ∀ t ∈ rest, s.sequence ≤ t.sequence) (hne : s.payload ≠ [])
    (hgap : base + m.buffer.length < s.sequence) :
    Result bytes b base maxBytes segments { m with gaps := true } := by
  have hrun := h.runLength_eq hmem (by
    intro t ht _
    rcases List.mem_cons.mp ht with rfl | ht
    · exact hgap
    · exact hgap.trans_le (hsorted t ht))
  have hfits := h.fits
  refine ⟨?_, ?_, ?_, ?_⟩
  · rw [hrun, Nat.min_eq_left hfits]
    exact h.buffer
  · rw [hrun, Nat.min_eq_left hfits]
  · rw [hrun]
    exact iff_of_true rfl ⟨hfits, s, (hmem s).mpr (Or.inr List.mem_cons_self), hne, hgap⟩
  · rw [hrun]
    refine iff_of_false ?_ (Nat.not_lt.mpr hfits)
    rw [h.whole]
    exact Bool.false_ne_true

/-- The bytes a segment adds are the next ones of the stream. -/
theorem Merged.next_data (h : Merged bytes b base maxBytes segments done m)
    (hslices : Slices bytes b segments) (hs : s ∈ segments) (hne : s.payload ≠ [])
    (hbase : base ≤ s.sequence) (htouch : s.sequence - base ≤ m.buffer.length) :
    b ≤ base ∧ ∃ k, s.payload.drop (m.buffer.length - (s.sequence - base)) =
      ((bytes.drop (base - b)).drop m.buffer.length).take k := by
  obtain ⟨hb, n, hpayload⟩ := hslices.slice s hs hne
  have hbb : b ≤ base := by
    by_cases hempty : m.buffer = []
    · rw [hempty, List.length_nil] at htouch
      omega
    · exact h.start hempty
  refine ⟨hbb, n - (m.buffer.length - (s.sequence - base)), ?_⟩
  rw [hpayload, List.drop_take, List.drop_drop, List.drop_drop]
  congr 2
  omega

/-- With the added bytes, everything up to their end is carried. -/
theorem Merged.covered_next (h : Merged bytes b base maxBytes segments done m) (hs : s ∈ segments)
    (hbase : base ≤ s.sequence) (htouch : s.sequence - base ≤ m.buffer.length) {i : Nat}
    (hi : base + i < s.sequence + s.payload.length) : Covered segments (base + i) := by
  by_cases hlt : i < m.buffer.length
  · exact h.covered i hlt
  · exact ⟨s, hs, by omega, hi⟩

/-- **A segment that adds nothing.** -/
theorem Merged.skip (h : Merged bytes b base maxBytes segments done m) (ids : List String)
    (hend : s.payload ≠ [] → s.sequence + s.payload.length ≤ base + m.buffer.length) :
    Merged bytes b base maxBytes segments (done ++ [s]) { m with packetIds := ids } := by
  refine ⟨h.buffer, h.start, h.covered, ?_, h.fits, h.noGaps, h.whole⟩
  intro t ht hne
  rcases List.mem_append.mp ht with ht | ht
  · exact h.ends t ht hne
  · rw [List.mem_singleton.mp ht] at hne ⊢
    exact hend hne

/-- **A segment whose bytes all fit.** -/
theorem Merged.extend (h : Merged bytes b base maxBytes segments done m) (ids : List String)
    (hslices : Slices bytes b segments) (hs : s ∈ segments) (hne : s.payload ≠ [])
    (hbase : base ≤ s.sequence) (htouch : s.sequence - base ≤ m.buffer.length)
    (hfits : m.buffer.length +
      (s.payload.drop (m.buffer.length - (s.sequence - base))).length ≤ maxBytes)
    (hdata : s.payload.drop (m.buffer.length - (s.sequence - base)) ≠ []) :
    Merged bytes b base maxBytes segments (done ++ [s])
      { m with
        buffer := m.buffer ++ s.payload.drop (m.buffer.length - (s.sequence - base))
        packetIds := ids } := by
  obtain ⟨hbb, k, hk⟩ := h.next_data hslices hs hne hbase htouch
  have hpos := List.length_pos_iff.mpr hdata
  rw [List.length_drop] at hpos hfits
  have hlength : (m.buffer ++ s.payload.drop (m.buffer.length - (s.sequence - base))).length =
      s.sequence - base + s.payload.length := by
    rw [List.length_append, List.length_drop]
    omega
  refine ⟨?_, fun _ => hbb, ?_, ?_, ?_, h.noGaps, h.whole⟩
  · have hnext := take_append_next (bytes.drop (base - b)) m.buffer.length k
    rw [← h.buffer, ← hk] at hnext
    rw [List.length_append]
    exact hnext
  · intro i hi
    rw [hlength] at hi
    exact h.covered_next hs hbase htouch (by omega)
  · intro t ht hnet
    rw [hlength]
    rcases List.mem_append.mp ht with ht | ht
    · have hend := h.ends t ht hnet
      omega
    · rw [List.mem_singleton.mp ht]
      omega
  · rw [hlength]
    omega

/-- **A segment whose bytes are dropped at the limit.** -/
theorem Merged.cut (h : Merged bytes b base maxBytes segments done m) (ids : List String)
    (hslices : Slices bytes b segments) (hs : s ∈ segments) (hne : s.payload ≠ [])
    (hbase : base ≤ s.sequence) (htouch : s.sequence - base ≤ m.buffer.length)
    (hover : maxBytes < m.buffer.length +
      (s.payload.drop (m.buffer.length - (s.sequence - base))).length) :
    Result bytes b base maxBytes segments
      { m with
        buffer := m.buffer ++ (s.payload.drop (m.buffer.length - (s.sequence - base))).take
          (maxBytes - m.buffer.length)
        packetIds := ids
        truncated := true } := by
  obtain ⟨-, k, hk⟩ := h.next_data hslices hs hne hbase htouch
  have hfits := h.fits
  have hpos : 0 < (s.payload.drop (m.buffer.length - (s.sequence - base))).length := by omega
  have hrun : maxBytes < runLength segments base := by
    apply lt_runLength
    intro i hi
    rw [List.length_drop] at hover hpos
    exact h.covered_next hs hbase htouch (by omega)
  have hmin : min (runLength segments base) maxBytes = maxBytes := Nat.min_eq_right hrun.le
  have hlength : (m.buffer ++ (s.payload.drop (m.buffer.length - (s.sequence - base))).take
      (maxBytes - m.buffer.length)).length = maxBytes := by
    rw [List.length_append, List.length_take]
    omega
  refine ⟨?_, ?_, ?_, ?_⟩
  · rw [hmin]
    have hnext := take_append_next (bytes.drop (base - b)) m.buffer.length
      (min (maxBytes - m.buffer.length) k)
    rw [← List.take_take, ← h.buffer, ← hk, ← List.length_append, hlength] at hnext
    exact hnext
  · rw [hmin]
    exact hlength
  · refine iff_of_false ?_ fun hgap => absurd hgap.1 (Nat.not_le.mpr hrun)
    rw [h.noGaps]
    exact Bool.false_ne_true
  · exact iff_of_true rfl hrun

/-- **The whole pass**, by induction on the segments to come. -/
theorem Merged.mergeSegments (hslices : Slices bytes b segments) {rest : List TcpSegment}
    (h : Merged bytes b base maxBytes segments done m)
    (hmem : ∀ t, t ∈ segments ↔ t ∈ done ∨ t ∈ rest)
    (hsorted : rest.Pairwise fun s t => s.sequence ≤ t.sequence)
    (hbase : ∀ t ∈ rest, base ≤ t.sequence) :
    Result bytes b base maxBytes segments (mergeSegments base maxBytes m rest) := by
  induction rest generalizing done m with
  | nil =>
    rw [TcpStreamReassembly.mergeSegments]
    refine h.result fun s => ?_
    rw [hmem, or_iff_left List.not_mem_nil]
  | cons s rest ih =>
    have hs : s ∈ segments := (hmem s).mpr (Or.inr List.mem_cons_self)
    have hmem' : ∀ t, t ∈ segments ↔ t ∈ done ++ [s] ∨ t ∈ rest := by
      intro t
      rw [hmem, List.mem_append, List.mem_singleton, List.mem_cons, or_assoc]
    rw [List.pairwise_cons] at hsorted
    have hcontinue : ∀ {m'}, Merged bytes b base maxBytes segments (done ++ [s]) m' →
        Result bytes b base maxBytes segments
          (if m'.gaps ∨ m'.truncated then m'
            else TcpStreamReassembly.mergeSegments base maxBytes m' rest) := by
      intro m' h'
      rw [h'.noGaps, h'.whole, if_neg (by simp)]
      exact ih h' hmem' hsorted.2 fun t ht => hbase t (List.mem_cons_of_mem _ ht)
    have hsbase := hbase s List.mem_cons_self
    rw [TcpStreamReassembly.mergeSegments]
    unfold mergeSegment
    by_cases hne : s.payload = []
    · rw [if_pos hne]
      exact hcontinue (h.skip m.packetIds fun hne' => absurd hne hne')
    rw [if_neg hne]
    dsimp only
    by_cases hgap : m.buffer.length < s.sequence - base
    · rw [if_pos hgap, if_pos (Or.inl rfl)]
      exact h.gap hmem hsorted.1 hne (by omega)
    rw [if_neg hgap]
    have htouch : s.sequence - base ≤ m.buffer.length := Nat.le_of_not_lt hgap
    by_cases hdata : s.payload.drop (m.buffer.length - (s.sequence - base)) = []
    · rw [if_pos hdata]
      refine hcontinue (h.skip _ fun _ => ?_)
      have hlength := congrArg List.length hdata
      rw [List.length_drop, List.length_nil] at hlength
      omega
    rw [if_neg hdata]
    have hpos := List.length_pos_iff.mpr hdata
    have hfits := h.fits
    by_cases hfull : maxBytes - m.buffer.length = 0
    · rw [if_pos hfull, if_pos (Or.inr rfl)]
      have hcut := h.cut m.packetIds hslices hs hne hsbase htouch (by omega)
      rw [hfull, List.take_zero, List.append_nil] at hcut
      exact hcut
    rw [if_neg hfull]
    by_cases hover : maxBytes - m.buffer.length <
        (s.payload.drop (m.buffer.length - (s.sequence - base))).length
    · rw [if_pos hover, if_pos (Or.inr rfl)]
      exact h.cut _ hslices hs hne hsbase htouch (by omega)
    · rw [if_neg hover]
      exact hcontinue (h.extend _ hslices hs hne hsbase htouch (by omega) hdata)

end Pass

/-! ## Reassembly -/

/-- The bytes of the stream that the segments carry from the smallest sequence number on without
interruption, cut at the limit. -/
def streamRun (bytes : List UInt8) (b : Nat) (segments : List TcpSegment) (maxBytes : Nat) :
    List UInt8 :=
  (bytes.drop (smallestSequence segments - b)).take
    (min (runLength segments (smallestSequence segments)) maxBytes)

/-- What a reassembled stream says of the stream its segments were cut from. -/
structure Describes (bytes : List UInt8) (b : Nat) (segments : List TcpSegment) (maxBytes : Nat)
    (r : ReassembledStream) : Prop where
  length : r.bytesReassembled = min (runLength segments (smallestSequence segments)) maxBytes
  digest : r.sha256 = digestOf (streamRun bytes b segments maxBytes)
  gaps : r.gapsDetected = true ↔ runLength segments (smallestSequence segments) ≤ maxBytes ∧
    ∃ s ∈ segments, s.payload ≠ [] ∧
      smallestSequence segments + runLength segments (smallestSequence segments) < s.sequence
  truncated : r.truncated = true ↔ maxBytes < runLength segments (smallestSequence segments)

/-- The segments in the order of the pass. -/
def orderedSegments (segments : List TcpSegment) : List TcpSegment :=
  segments.insertionSort fun a b => a.key ≤ b.key

theorem mem_orderedSegments {segments : List TcpSegment} {s : TcpSegment} :
    s ∈ orderedSegments segments ↔ s ∈ segments :=
  (List.perm_insertionSort _ segments).mem_iff

theorem keys_nodup {segments : List TcpSegment} (h : (segments.map (·.packetId)).Nodup) :
    (segments.map TcpSegment.key).Nodup := by
  have hmap : segments.map (·.packetId) = (segments.map TcpSegment.key).map fun k => k.2 := by
    rw [List.map_map]
    rfl
  rw [hmap] at h
  exact h.of_map _

/-- The order of the pass does not depend on the order of the tuple. -/
theorem orderedSegments_perm {segments segments' : List TcpSegment}
    (h : (segments.map (·.packetId)).Nodup) (hperm : segments'.Perm segments) :
    orderedSegments segments' = orderedSegments segments := by
  have h' := (hperm.map (·.packetId)).nodup_iff.mpr h
  apply eq_of_strict (insertionSort_strict (keys_nodup h')) (insertionSort_strict (keys_nodup h))
  intro s
  exact mem_orderedSegments.trans (hperm.mem_iff.trans mem_orderedSegments.symm)

theorem orderedSegments_pairwise {segments : List TcpSegment}
    (h : (segments.map (·.packetId)).Nodup) :
    (orderedSegments segments).Pairwise fun s t => s.sequence ≤ t.sequence := by
  refine (insertionSort_strict (keys_nodup h)).imp fun hlt => ?_
  rcases Prod.Lex.lt_iff.mp hlt with hsequence | ⟨hsequence, -⟩
  · exact hsequence.le
  · exact hsequence.le

/-- The first segment of the pass has the smallest sequence number. -/
theorem orderedSegments_head {segments rest : List TcpSegment} {s : TcpSegment}
    (h : (segments.map (·.packetId)).Nodup) (hordered : orderedSegments segments = s :: rest) :
    smallestSequence segments = s.sequence := by
  have hmin : (segments.map (·.sequence)).min? = some s.sequence := by
    rw [List.min?_eq_some_iff]
    constructor
    · apply List.mem_map_of_mem
      rw [← mem_orderedSegments, hordered]
      exact List.mem_cons_self
    · intro q hq
      obtain ⟨t, ht, rfl⟩ := List.mem_map.mp hq
      rw [← mem_orderedSegments, hordered] at ht
      have hsorted := orderedSegments_pairwise h
      rw [hordered, List.pairwise_cons] at hsorted
      rcases List.mem_cons.mp ht with rfl | ht
      · exact le_rfl
      · exact hsorted.1 t ht
  rw [smallestSequence, hmin, Option.getD_some]

section Reassembly

variable (upper : String → String) (srcPort dstPort : Option Int)

/-- **What a reassembly comes to**: the whole pass, and the dissection of what it put together. -/
theorem reassembleTcpSegments_eq {bytes : List UInt8} {b maxBytes : Nat}
    {segments : List TcpSegment} (hne : segments ≠ [])
    (hcount : segments.length ≤ maxStreamSegments) (hpos : 1 ≤ maxBytes)
    (hmax : maxBytes ≤ maxReassembledStreamBytes) (hslices : Slices bytes b segments) :
    ∃ m, Result bytes b (smallestSequence segments) maxBytes segments m ∧
      ∀ segments', segments'.Perm segments →
        reassembleTcpSegments upper srcPort dstPort segments' maxBytes =
          (protocolOf upper srcPort dstPort m.buffer).map fun protocol => ⟨m.packetIds.dedup,
            m.buffer.length, digestOf m.buffer, m.truncated, m.gaps, protocol⟩ := by
  have hordered : orderedSegments segments ≠ [] := by
    intro hnil
    apply hne
    exact List.eq_nil_iff_forall_not_mem.mpr fun s hs =>
      List.eq_nil_iff_forall_not_mem.mp hnil s (mem_orderedSegments.mpr hs)
  obtain ⟨s, rest, hcons⟩ := List.exists_cons_of_ne_nil hordered
  have hbase := orderedSegments_head hslices.distinct hcons
  have hsorted := orderedSegments_pairwise hslices.distinct
  have hle : ∀ t ∈ orderedSegments segments, smallestSequence segments ≤ t.sequence := by
    intro t ht
    rw [hbase]
    rw [hcons, List.pairwise_cons] at hsorted
    rw [hcons] at ht
    rcases List.mem_cons.mp ht with rfl | ht
    · exact le_rfl
    · exact hsorted.1 t ht
  have hresult : Result bytes b (smallestSequence segments) maxBytes segments
      (mergeSegments (smallestSequence segments) maxBytes .start (orderedSegments segments)) :=
    merged_start.mergeSegments hslices (fun t =>
      mem_orderedSegments.symm.trans (or_iff_right List.not_mem_nil).symm) hsorted hle
  refine ⟨_, hresult, ?_⟩
  intro segments' hperm
  have hne' : segments' ≠ [] := fun hnil => hne (hperm.symm.trans (.of_eq hnil)).eq_nil
  obtain ⟨first, tail, hsegments'⟩ := List.exists_cons_of_ne_nil hne'
  have hhead : segments'.head? = some first := by rw [hsegments', List.head?_cons]
  have hcount' : ¬ maxStreamSegments < segments'.length := by
    rw [hperm.length_eq]
    exact Nat.not_lt.mpr hcount
  have hlimit : ¬ (maxBytes < 1 ∨ maxReassembledStreamBytes < maxBytes) := by omega
  have hsort : segments'.insertionSort (fun a b => a.key ≤ b.key) = orderedSegments segments :=
    orderedSegments_perm hslices.distinct hperm
  have hfirst : ((orderedSegments segments).headD first).sequence = smallestSequence segments := by
    rw [hcons, hbase, List.headD_cons]
  rw [reassembleTcpSegments, hhead, getOrRaise_some, ok_bind, raiseIf_of_not hcount', ok_bind,
    raiseIf_of_not hlimit, ok_bind, hsort]
  dsimp only
  rw [hfirst]
  cases protocolOf upper srcPort dstPort (mergeSegments (smallestSequence segments) maxBytes .start
      (orderedSegments segments)).buffer with
  | ok protocol => rfl
  | error e => rfl

/-- The protocol is found unless the bytes name a server. -/
theorem protocolOf_ok_iff (raw : List UInt8) :
    (∃ protocol, protocolOf upper srcPort dstPort raw = .ok protocol) ↔ hostNames raw = [] := by
  unfold protocolOf
  by_cases hempty : raw = []
  · rw [if_pos hempty, hempty]
    exact iff_of_true ⟨none, rfl⟩ rfl
  · rw [if_neg hempty]
    exact dissectPayload_ok_iff upper raw srcPort dstPort

/-- **The reassembly of every stream.**  Segments of a stream are put together as the contiguous run
of it that they carry, in whatever order they come, unless the run is a TLS client hello that names
its server: the dissection of what was put together raises on every such name. -/
theorem reassembled_iff {bytes : List UInt8} {b maxBytes : Nat} {segments : List TcpSegment}
    (hne : segments ≠ []) (hcount : segments.length ≤ maxStreamSegments) (hpos : 1 ≤ maxBytes)
    (hmax : maxBytes ≤ maxReassembledStreamBytes) (hslices : Slices bytes b segments) :
    (∃ r, (∀ segments', segments'.Perm segments →
        reassembleTcpSegments upper srcPort dstPort segments' maxBytes = .ok r) ∧
      Describes bytes b segments maxBytes r) ↔
    hostNames (streamRun bytes b segments maxBytes) = [] := by
  obtain ⟨m, hresult, hrun⟩ := reassembleTcpSegments_eq upper srcPort dstPort hne hcount hpos hmax
    hslices
  have hbuffer : m.buffer = streamRun bytes b segments maxBytes := hresult.buffer
  rw [← hbuffer, ← protocolOf_ok_iff upper srcPort dstPort]
  constructor
  · rintro ⟨r, hall, -⟩
    have hself := hall segments (List.Perm.refl _)
    rw [hrun segments (List.Perm.refl _)] at hself
    obtain ⟨protocol, hprotocol, -⟩ := map_eq_ok.mp hself
    exact ⟨protocol, hprotocol⟩
  · rintro ⟨protocol, hprotocol⟩
    refine ⟨⟨m.packetIds.dedup, m.buffer.length, digestOf m.buffer, m.truncated, m.gaps, protocol⟩,
      ?_, ⟨hresult.length, ?_, hresult.gaps, hresult.truncated⟩⟩
    · intro segments' hperm
      rw [hrun segments' hperm, hprotocol]
      rfl
    · rw [hbuffer]

end Reassembly

/-- Two segments of the stream `GET /`, the second of which overlaps the first. -/
def overlapping : List TcpSegment :=
  [⟨"p2", 102, [84, 32, 47], by decide⟩, ⟨"p1", 100, [71, 69, 84], by decide⟩]

theorem slices_overlapping : Slices [71, 69, 84, 32, 47] 100 overlapping := by
  refine ⟨by decide, ?_⟩
  intro s hs _
  rcases List.mem_pair.mp hs with rfl | rfl
  · exact ⟨by decide, 3, rfl⟩
  · exact ⟨by decide, 3, rfl⟩

theorem overlapping_reassembled : ∃ r,
    reassembleTcpSegments id none (some 80) overlapping 262144 = .ok r ∧
      Describes [71, 69, 84, 32, 47] 100 overlapping 262144 r := by
  have hnone : hostNames (streamRun [71, 69, 84, 32, 47] 100 overlapping 262144) = [] := by
    decide +kernel
  obtain ⟨r, hall, hdescribes⟩ := (reassembled_iff id none (some 80) (by decide) (by decide)
    (by omega) (by decide) slices_overlapping).mpr hnone
  exact ⟨r, hall _ (List.Perm.refl _), hdescribes⟩

/-- A TLS client hello for the server `a`. -/
def clientHello : List UInt8 :=
  [0x16, 3, 1, 0, 57, 1, 0, 0, 53, 3, 3] ++ List.replicate 32 7 ++
    [0, 0, 2, 0x13, 1, 1, 0, 0, 10, 0, 0, 0, 6, 0, 4, 0, 0, 1, 97]

def helloSegment : TcpSegment := ⟨"p1", 1000, clientHello, by decide⟩

theorem client_hello_raises : ¬ ∀ (upper : String → String) (srcPort dstPort : Option Int)
    (bytes : List UInt8) (b maxBytes : Nat) (segments : List TcpSegment), segments ≠ [] →
    segments.length ≤ maxStreamSegments → 1 ≤ maxBytes → maxBytes ≤ maxReassembledStreamBytes →
    Slices bytes b segments →
    ∃ r, (∀ segments', segments'.Perm segments →
        reassembleTcpSegments upper srcPort dstPort segments' maxBytes = .ok r) ∧
      Describes bytes b segments maxBytes r := by
  intro h
  have hslices : Slices clientHello 1000 [helloSegment] := by
    refine ⟨List.nodup_singleton _, ?_⟩
    intro s hs _
    rw [List.mem_singleton.mp hs]
    exact ⟨le_rfl, clientHello.length, by rw [helloSegment]; decide⟩
  obtain ⟨r, hall, -⟩ := h id none (some 443) clientHello 1000 262144 [helloSegment] (by decide)
    (by decide) (by decide) (by decide) hslices
  have hraised : (reassembleTcpSegments id none (some 443) [helloSegment] 262144).isOk = false := by
    decide +kernel
  rw [hall _ (List.Perm.refl _)] at hraised
  cases hraised

end NightRecon.RedEngine.TcpStreamReassembly
