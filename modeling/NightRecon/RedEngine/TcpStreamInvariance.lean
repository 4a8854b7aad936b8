import NightRecon.RedEngine.TcpStreamReassembly

/-!
# What the reassembly of a TCP stream does not depend on

Two-run laws of `nightrecon_red_engine/tcp_stream_reassembly.py`.

* `filter_insertionSort` — the order is stable, so dropping segments commutes with ordering them;
* `mergeSegments_data` — the pass does not see segments without payload;
* `StartsEarly` — a segment without payload precedes all data; `control_segments_iff` — segments
  without payload change nothing exactly when this does not change;
* `shifted`, `Whole` — sequence numbers moved on by a constant, and no segment crossing the wrap
  without the others; `shift_law` — then nothing changes, and a complete stream changes otherwise.
-/

namespace NightRecon.RedEngine.TcpStreamReassembly

open NightRecon.Lib
open NightRecon.Lib.Checks

/-! ## Ordering -/

section Ordering

variable {α : Type} (r : α → α → Prop) [DecidableRel r] [IsTrans α r] (p : α → Bool)

theorem filter_orderedInsert {a : α} {l : List α} (hl : l.Pairwise r) :
    (l.orderedInsert r a).filter p =
      if p a then (l.filter p).orderedInsert r a else l.filter p := by
  induction l with
  | nil =>
    rw [List.orderedInsert_nil, List.filter_nil, List.orderedInsert_nil]
    cases hp : p a with
    | true => rw [List.filter_cons_of_pos hp, List.filter_nil, if_pos rfl]
    | false => rw [List.filter_cons_of_neg (by simp [hp]), List.filter_nil, if_neg (by simp)]
  | cons b l ih =>
    obtain ⟨hb, hl⟩ := List.pairwise_cons.mp hl
    by_cases hab : r a b
    · rw [List.orderedInsert_cons_of_le r l hab]
      cases hp : p a with
      | false => rw [List.filter_cons_of_neg (by simp [hp]), if_neg (by simp)]
      | true =>
        rw [List.filter_cons_of_pos hp, if_pos rfl]
        -- what is left of the list starts behind the new element
        cases hrest : (b :: l).filter p with
        | nil => rw [List.orderedInsert_nil]
        | cons c rest =>
          have hc : c ∈ b :: l := by
            apply List.mem_of_mem_filter (p := p)
            rw [hrest]
            exact List.mem_cons_self
          have hac : r a c := by
            rcases List.mem_cons.mp hc with rfl | hc
            · exact hab
            · exact trans_of r hab (hb c hc)
          rw [List.orderedInsert_cons_of_le r rest hac]
    · rw [List.orderedInsert_of_not_le r l hab]
      cases hp : p b with
      | true =>
        rw [List.filter_cons_of_pos hp, List.filter_cons_of_pos hp, ih hl]
        cases ha : p a with
        | true => rw [if_pos rfl, if_pos rfl, List.orderedInsert_of_not_le r _ hab]
        | false => rw [if_neg (by simp), if_neg (by simp)]
      | false =>
        rw [List.filter_cons_of_neg (by simp [hp]), List.filter_cons_of_neg (by simp [hp]), ih hl]

/-- **Sorting and filtering commute**, equal keys keeping their places. -/
theorem filter_insertionSort [Std.Total r] (l : List α) :
    (l.insertionSort r).filter p = (l.filter p).insertionSort r := by
  induction l with
  | nil => rfl
  | cons a l ih =>
    rw [List.insertionSort_cons, filter_orderedInsert r p (List.pairwise_insertionSort r l), ih]
    cases hp : p a with
    | true => rw [if_pos rfl, List.filter_cons_of_pos hp, List.insertionSort_cons]
    | false => rw [if_neg (by simp), List.filter_cons_of_neg (by simp [hp])]

end Ordering

/-! ## What the result shows -/

/-- The bytes put together, their digest, and the two flags. -/
def summary (r : ReassembledStream) : Nat × String × Bool × Bool :=
  (r.bytesReassembled, r.sha256, r.truncated, r.gapsDetected)

section Runs

variable (upper : String → String) (srcPort dstPort : Option Int)

/-- The result of a pass. -/
def resultOf (m : Merge) : Py ReassembledStream := do
  let protocol ← protocolOf upper srcPort dstPort m.buffer
  return ⟨m.packetIds.dedup, m.buffer.length, digestOf m.buffer, m.truncated, m.gaps, protocol⟩

/-- The sequence number of the first segment of the pass. -/
def firstSequence (segments : List TcpSegment) : Nat :=
  ((orderedSegments segments).head?.map (·.sequence)).getD 0

/-- The pass over a tuple. -/
def passOf (segments : List TcpSegment) (maxBytes : Nat) : Merge :=
  mergeSegments (firstSequence segments) maxBytes .start (orderedSegments segments)

/-- **A reassembly within the limits** is its pass. -/
theorem reassemble_eq_resultOf {segments : List TcpSegment} {maxBytes : Nat} (hne : segments ≠ [])
    (hcount : segments.length ≤ maxStreamSegments)
    (hmax : 1 ≤ maxBytes ∧ maxBytes ≤ maxReassembledStreamBytes) :
    reassembleTcpSegments upper srcPort dstPort segments maxBytes =
      resultOf upper srcPort dstPort (passOf segments maxBytes) := by
  obtain ⟨first, tail, hsegments⟩ := List.exists_cons_of_ne_nil hne
  have hhead : segments.head? = some first := by rw [hsegments, List.head?_cons]
  have hordered : orderedSegments segments ≠ [] := by
    intro hnil
    have hlength := congrArg List.length hnil
    rw [orderedSegments, List.length_insertionSort, List.length_nil] at hlength
    exact hne (List.eq_nil_of_length_eq_zero hlength)
  obtain ⟨s, rest, hcons⟩ := List.exists_cons_of_ne_nil hordered
  have hfirst : ((orderedSegments segments).headD first).sequence = firstSequence segments := by
    rw [firstSequence, hcons, List.headD_cons, List.head?_cons]
    rfl
  rw [reassembleTcpSegments, hhead, getOrRaise_some, ok_bind,
    raiseIf_of_not (Nat.not_lt.mpr hcount), ok_bind, raiseIf_of_not (by omega), ok_bind]
  dsimp only
  rw [← orderedSegments, hfirst]
  rfl

/-! ## Segments without payload -/

/-- The segments with payload. -/
def dataSegments (segments : List TcpSegment) : List TcpSegment :=
  segments.filter fun s => s.payload ≠ []

/-- The order of the keys on segments. -/
def keyLe (a b : TcpSegment) : Prop := a.key ≤ b.key

instance : DecidableRel keyLe := fun a b => inferInstanceAs (Decidable (a.key ≤ b.key))

instance : IsTrans TcpSegment keyLe := ⟨fun _ _ _ h h' => le_trans h h'⟩

instance : Std.Total keyLe := ⟨fun a b => le_total a.key b.key⟩

theorem dataSegments_ordered (segments : List TcpSegment) :
    dataSegments (orderedSegments segments) = orderedSegments (dataSegments segments) :=
  filter_insertionSort keyLe _ segments

/-- **The pass does not see segments without payload.** -/
theorem mergeSegments_data (base maxBytes : Nat) {m : Merge} (hgaps : m.gaps = false)
    (htruncated : m.truncated = false) (segments : List TcpSegment) :
    mergeSegments base maxBytes m (dataSegments segments) =
      mergeSegments base maxBytes m segments := by
  induction segments generalizing m with
  | nil => rfl
  | cons s rest ih =>
    by_cases hempty : s.payload = []
    · have hskip : mergeSegment base maxBytes m s = m := if_pos hempty
      have hrest : dataSegments (s :: rest) = dataSegments rest :=
        List.filter_cons_of_neg (by simp [hempty])
      rw [hrest, ih hgaps htruncated, mergeSegments, hskip, hgaps, htruncated, if_neg (by simp)]
    · have hrest : dataSegments (s :: rest) = s :: dataSegments rest :=
        List.filter_cons_of_pos (by simp [hempty])
      rw [hrest, mergeSegments, mergeSegments]
      by_cases hstop : (mergeSegment base maxBytes m s).gaps = true ∨
          (mergeSegment base maxBytes m s).truncated = true
      · rw [if_pos hstop, if_pos hstop]
      · rw [if_neg hstop, if_neg hstop]
        rw [not_or, Bool.not_eq_true, Bool.not_eq_true] at hstop
        exact ih hstop.1 hstop.2

/-- The first sequence number of a pass is the smallest. -/
theorem firstSequence_le {segments : List TcpSegment} {s : TcpSegment} (hs : s ∈ segments) :
    firstSequence segments ≤ s.sequence := by
  have hsorted : (orderedSegments segments).Pairwise keyLe :=
    List.pairwise_insertionSort keyLe segments
  rw [← mem_orderedSegments] at hs
  rw [firstSequence]
  cases hcons : orderedSegments segments with
  | nil =>
    rw [hcons] at hs
    exact absurd hs List.not_mem_nil
  | cons t rest =>
    rw [hcons] at hs hsorted
    rw [List.head?_cons, Option.map_some, Option.getD_some]
    rcases List.mem_cons.mp hs with rfl | hs
    · exact le_rfl
    · rcases Prod.Lex.le_iff.mp ((List.pairwise_cons.mp hsorted).1 s hs) with hlt | ⟨heq, -⟩
      · exact hlt.le
      · exact heq.le

/-- The first sequence number of a pass is one of its segments'. -/
theorem firstSequence_mem {segments : List TcpSegment} (hne : segments ≠ []) :
    ∃ s ∈ segments, s.sequence = firstSequence segments := by
  cases hcons : orderedSegments segments with
  | nil =>
    obtain ⟨s, hs⟩ := List.exists_mem_of_ne_nil segments hne
    rw [← mem_orderedSegments, hcons] at hs
    exact absurd hs List.not_mem_nil
  | cons t rest =>
    refine ⟨t, ?_, ?_⟩
    · rw [← mem_orderedSegments, hcons]
      exact List.mem_cons_self
    · rw [firstSequence, hcons]
      rfl

/-- A segment without payload precedes all data. -/
def StartsEarly (segments : List TcpSegment) : Prop :=
  ∃ s ∈ segments, s.payload = [] ∧ ∀ t ∈ segments, t.payload ≠ [] → s.sequence < t.sequence

theorem mem_dataSegments {segments : List TcpSegment} {s : TcpSegment} :
    s ∈ dataSegments segments ↔ s ∈ segments ∧ s.payload ≠ [] := by
  rw [dataSegments, List.mem_filter, decide_eq_true_eq]

/-- The pass starts before the data exactly when a segment without payload precedes it. -/
theorem startsEarly_iff {segments : List TcpSegment} (hdata : dataSegments segments ≠ []) :
    StartsEarly segments ↔ firstSequence segments < firstSequence (dataSegments segments) := by
  constructor
  · rintro ⟨s, hs, -, hall⟩
    obtain ⟨t, ht, hfirst⟩ := firstSequence_mem hdata
    obtain ⟨ht, hne⟩ := mem_dataSegments.mp ht
    calc firstSequence segments ≤ s.sequence := firstSequence_le hs
      _ < t.sequence := hall t ht hne
      _ = firstSequence (dataSegments segments) := hfirst
  · intro hlt
    have hne : segments ≠ [] := by
      rintro rfl
      exact hdata rfl
    obtain ⟨s, hs, hfirst⟩ := firstSequence_mem hne
    have hbefore : ∀ t ∈ segments, t.payload ≠ [] → s.sequence < t.sequence := by
      intro t ht hpayload
      rw [hfirst]
      exact hlt.trans_le (firstSequence_le (mem_dataSegments.mpr ⟨ht, hpayload⟩))
    refine ⟨s, hs, ?_, hbefore⟩
    exact Classical.not_not.mp fun hpayload => absurd (hbefore s hs hpayload) (lt_irrefl _)

/-- The pass of a tuple is the pass over its data, from the tuple's first sequence number. -/
theorem passOf_eq (segments : List TcpSegment) (maxBytes : Nat) :
    passOf segments maxBytes = mergeSegments (firstSequence segments) maxBytes .start
      (orderedSegments (dataSegments segments)) := by
  rw [passOf, ← dataSegments_ordered]
  exact (mergeSegments_data _ _ rfl rfl _).symm

/-- A pass that starts early finds a gap at once. -/
theorem passOf_early {segments : List TcpSegment} (maxBytes : Nat)
    (hdata : dataSegments segments ≠ []) (h : StartsEarly segments) :
    passOf segments maxBytes = ⟨[], [], true, false⟩ := by
  have hlt := (startsEarly_iff hdata).mp h
  rw [passOf_eq]
  cases hcons : orderedSegments (dataSegments segments) with
  | nil =>
    obtain ⟨s, hs⟩ := List.exists_mem_of_ne_nil _ hdata
    rw [← mem_orderedSegments, hcons] at hs
    exact absurd hs List.not_mem_nil
  | cons s rest =>
    have hs : s ∈ dataSegments segments := by
      rw [← mem_orderedSegments, hcons]
      exact List.mem_cons_self
    have hle := firstSequence_le hs
    have hgap : Merge.start.buffer.length < s.sequence - firstSequence segments := by
      rw [Merge.start, List.length_nil]
      omega
    have hturn : mergeSegment (firstSequence segments) maxBytes .start s =
        ⟨[], [], true, false⟩ := by
      rw [mergeSegment, if_neg (mem_dataSegments.mp hs).2]
      exact if_pos hgap
    rw [mergeSegments, hturn]
    exact if_pos (.inl rfl)

/-- The bytes that were put together stay. -/
theorem length_le_mergeSegments (base maxBytes : Nat) (m : Merge) (segments : List TcpSegment) :
    m.buffer.length ≤ (mergeSegments base maxBytes m segments).buffer.length := by
  have hturn : ∀ (m : Merge) (s : TcpSegment),
      m.buffer.length ≤ (mergeSegment base maxBytes m s).buffer.length := by
    intro m s
    unfold mergeSegment
    dsimp only
    split_ifs
    · exact le_rfl
    · exact le_rfl
    · exact le_rfl
    · exact le_rfl
    · rw [List.length_append]
      exact Nat.le_add_right _ _
    · rw [List.length_append]
      exact Nat.le_add_right _ _
  induction segments generalizing m with
  | nil => exact le_rfl
  | cons s rest ih =>
    rw [mergeSegments]
    split_ifs
    · exact hturn m s
    · exact (hturn m s).trans (ih _)

/-- A pass that starts at its data puts some bytes together. -/
theorem passOf_data {segments : List TcpSegment} {maxBytes : Nat} (hmax : 1 ≤ maxBytes)
    (hdata : dataSegments segments ≠ []) (h : ¬ StartsEarly segments) :
    0 < (passOf segments maxBytes).buffer.length := by
  rw [startsEarly_iff hdata, Nat.not_lt] at h
  rw [passOf_eq]
  cases hcons : orderedSegments (dataSegments segments) with
  | nil =>
    obtain ⟨s, hs⟩ := List.exists_mem_of_ne_nil _ hdata
    rw [← mem_orderedSegments, hcons] at hs
    exact absurd hs List.not_mem_nil
  | cons s rest =>
    have hs : s ∈ dataSegments segments := by
      rw [← mem_orderedSegments, hcons]
      exact List.mem_cons_self
    have hfirst : firstSequence (dataSegments segments) = s.sequence := by
      rw [firstSequence, hcons]
      rfl
    have hpayload := (mem_dataSegments.mp hs).2
    have hoffset : s.sequence - firstSequence segments = 0 := by omega
    have hturn : 0 < (mergeSegment (firstSequence segments) maxBytes .start s).buffer.length := by
      have hpos := List.length_pos_iff.mpr hpayload
      rw [mergeSegment, if_neg hpayload]
      simp only [Merge.start, List.length_nil, hoffset, Nat.lt_irrefl, if_false, List.drop_zero,
        hpayload, Nat.sub_zero, List.nil_append]
      rw [if_neg (by omega)]
      split_ifs
      · rw [List.length_take]
        omega
      · exact hpos
    rw [mergeSegments]
    split_ifs
    · exact hturn
    · exact hturn.trans_le (length_le_mergeSegments _ _ _ _)

/-- What a result shows is what its pass put together. -/
theorem summary_resultOf {m : Merge} {x : Nat × String × Bool × Bool}
    (h : (resultOf upper srcPort dstPort m).map summary = .ok x) :
    (m.buffer.length, digestOf m.buffer, m.truncated, m.gaps) = x := by
  rw [resultOf] at h
  cases hprotocol : protocolOf upper srcPort dstPort m.buffer with
  | error e =>
    rw [hprotocol] at h
    cases h
  | ok protocol =>
    rw [hprotocol] at h
    exact Except.ok.inj h

/-- **Segments without payload change nothing** exactly when they do not change whether one of
them precedes all data. -/
theorem control_segments_iff {segments segments' : List TcpSegment} {maxBytes : Nat}
    (hsame : dataSegments segments' = dataSegments segments) (hdata : dataSegments segments ≠ [])
    (hcount : segments.length ≤ maxStreamSegments) (hcount' : segments'.length ≤ maxStreamSegments)
    (hmax : 1 ≤ maxBytes ∧ maxBytes ≤ maxReassembledStreamBytes) :
    (reassembleTcpSegments upper srcPort dstPort segments' maxBytes).map summary =
        (reassembleTcpSegments upper srcPort dstPort segments maxBytes).map summary ↔
      (StartsEarly segments' ↔ StartsEarly segments) := by
  have hdata' : dataSegments segments' ≠ [] := by rwa [hsame]
  have hne : ∀ {l : List TcpSegment}, dataSegments l ≠ [] → l ≠ [] := by
    rintro l hl rfl
    exact hl rfl
  rw [reassemble_eq_resultOf upper srcPort dstPort (hne hdata) hcount hmax,
    reassemble_eq_resultOf upper srcPort dstPort (hne hdata') hcount' hmax]
  -- a pass that starts early shows no byte, and one that starts at its data does
  have hdiffer : ∀ {early late : List TcpSegment}, dataSegments early ≠ [] →
      dataSegments late ≠ [] → StartsEarly early → ¬ StartsEarly late →
      (resultOf upper srcPort dstPort (passOf late maxBytes)).map summary ≠
        (resultOf upper srcPort dstPort (passOf early maxBytes)).map summary := by
    intro early late hearlyData hlateData hearly hlate heq
    have hsummary : (resultOf upper srcPort dstPort (passOf early maxBytes)).map summary =
        .ok (0, digestOf [], false, true) := by
      rw [passOf_early maxBytes hearlyData hearly]
      rfl
    have hlength := congrArg Prod.fst (summary_resultOf upper srcPort dstPort (heq.trans hsummary))
    exact absurd hlength (passOf_data hmax.1 hlateData hlate).ne'
  by_cases hearly : StartsEarly segments
  · by_cases hearly' : StartsEarly segments'
    · rw [passOf_early maxBytes hdata hearly, passOf_early maxBytes hdata' hearly']
      exact iff_of_true rfl (iff_of_true hearly' hearly)
    · refine iff_of_false (hdiffer hdata hdata' hearly hearly') ?_
      exact fun h => hearly' (h.mpr hearly)
  · by_cases hearly' : StartsEarly segments'
    · refine iff_of_false (fun heq => hdiffer hdata' hdata hearly' hearly heq.symm) ?_
      exact fun h => hearly (h.mp hearly')
    · -- both passes run over the same data from its first sequence number
      have hfirst : ∀ {l : List TcpSegment}, dataSegments l ≠ [] → ¬ StartsEarly l →
          firstSequence l = firstSequence (dataSegments l) := by
        intro l hl hlate
        rw [startsEarly_iff hl, Nat.not_lt] at hlate
        obtain ⟨s, hs, hseq⟩ := firstSequence_mem hl
        exact le_antisymm (hseq ▸ firstSequence_le (mem_dataSegments.mp hs).1) hlate
      rw [passOf_eq, passOf_eq, hfirst hdata hearly, hfirst hdata' hearly', hsame]
      exact iff_of_true rfl (iff_of_false hearly' hearly)

end Runs

/-- An acknowledgement behind the data of `overlapping`. -/
def ackSegment : TcpSegment := ⟨"p3", 105, [], by decide⟩

theorem overlapping_with_ack :
    (reassembleTcpSegments id none (some 80) (ackSegment :: overlapping) 262144).map summary =
      (reassembleTcpSegments id none (some 80) overlapping 262144).map summary := by
  have hsame : dataSegments (ackSegment :: overlapping) = dataSegments overlapping := rfl
  have hdata : dataSegments overlapping ≠ [] := List.cons_ne_nil _ _
  apply (control_segments_iff id none (some 80) hsame hdata (by decide) (by decide)
    (by decide)).mpr
  refine iff_of_false ?_ ?_
  · rintro ⟨s, hs, hempty, hall⟩
    have hfirst := hall ⟨"p1", 100, [71, 69, 84], by decide⟩
      (List.mem_cons_of_mem _ (List.mem_cons_of_mem _ List.mem_cons_self)) (List.cons_ne_nil _ _)
    rcases List.mem_cons.mp hs with rfl | hs
    · exact absurd hfirst (by decide)
    · rcases List.mem_pair.mp hs with rfl | rfl
      · exact List.cons_ne_nil _ _ hempty
      · exact List.cons_ne_nil _ _ hempty
  · rintro ⟨s, hs, hempty, -⟩
    rcases List.mem_pair.mp hs with rfl | rfl
    · exact List.cons_ne_nil _ _ hempty
    · exact List.cons_ne_nil _ _ hempty

/-- The first segment of a connection, which carries no data. -/
def synSegment : TcpSegment := ⟨"p0", 99, [], by decide⟩

theorem syn_changes_stream : ¬ ∀ (upper : String → String) (srcPort dstPort : Option Int)
    (segments segments' : List TcpSegment) (maxBytes : Nat),
    dataSegments segments' = dataSegments segments → dataSegments segments ≠ [] →
    segments.length ≤ maxStreamSegments → segments'.length ≤ maxStreamSegments →
    1 ≤ maxBytes ∧ maxBytes ≤ maxReassembledStreamBytes →
    (reassembleTcpSegments upper srcPort dstPort segments' maxBytes).map summary =
      (reassembleTcpSegments upper srcPort dstPort segments maxBytes).map summary := by
  intro h
  have heq := h id none (some 80) overlapping (synSegment :: overlapping) 262144 rfl
    (List.cons_ne_nil _ _) (by decide) (by decide) (by decide)
  have hbytes := congrArg (fun r => (r.toOption.map Prod.fst : Option Nat)) heq
  have hshown : ((reassembleTcpSegments id none (some 80) (synSegment :: overlapping)
      262144).map summary).toOption.map Prod.fst = some 0 := by
    decide +kernel
  have hwhole : ((reassembleTcpSegments id none (some 80) overlapping
      262144).map summary).toOption.map Prod.fst = some 5 := by
    decide +kernel
  have hzero : some 0 = some 5 := hshown.symm.trans (hbytes.trans hwhole)
  exact absurd (Option.some.inj hzero) (by decide)

/-! ## Sequence numbers moved on -/

/-- One past the last sequence number. -/
def sequenceSpace : Nat := 2 ^ 32

/-- A segment with its sequence number moved on by `k`, around the end of the sequence numbers. -/
def TcpSegment.shift (k : Nat) (s : TcpSegment) : TcpSegment :=
  { s with sequence := (s.sequence + k) % sequenceSpace }

def shifted (k : Nat) (segments : List TcpSegment) : List TcpSegment :=
  segments.map (TcpSegment.shift k)

/-- How often the sequence number of a segment goes around when it is moved on. -/
def turns (k : Nat) (s : TcpSegment) : Nat := (s.sequence + k) / sequenceSpace

/-- **No segment goes around without the others.** -/
def Whole (k : Nat) (segments : List TcpSegment) : Prop :=
  ∀ s ∈ segments, ∀ t ∈ segments, turns k s = turns k t

/-- The segments span less than half of the sequence numbers. -/
def SpansHalf (segments : List TcpSegment) : Prop :=
  ∀ s ∈ segments, ∀ t ∈ segments, s.sequence + s.payload.length < t.sequence + 2 ^ 31

/-- A sequence number moved on, with the turns it makes. -/
theorem shift_sequence (k : Nat) (s : TcpSegment) :
    (s.shift k).sequence + turns k s * sequenceSpace = s.sequence + k :=
  Nat.mod_add_div' (s.sequence + k) sequenceSpace

/-- A smaller sequence number makes no more turns. -/
theorem turns_le {k : Nat} {s t : TcpSegment} (h : s.sequence ≤ t.sequence) :
    turns k s ≤ turns k t :=
  Nat.div_le_div_right (Nat.add_le_add_right h k)

/-- Segments that make the same turns keep their order. -/
theorem keyLe_shift {k : Nat} {s t : TcpSegment} (h : turns k s = turns k t) :
    keyLe s t ↔ keyLe (s.shift k) (t.shift k) := by
  have hs := shift_sequence k s
  have ht := shift_sequence k t
  rw [← h] at ht
  have hlt : s.sequence < t.sequence ↔ (s.shift k).sequence < (t.shift k).sequence := by omega
  have heq : s.sequence = t.sequence ↔ (s.shift k).sequence = (t.shift k).sequence := by omega
  rw [keyLe, keyLe, TcpSegment.key, TcpSegment.key, TcpSegment.key, TcpSegment.key,
    Prod.Lex.le_iff, Prod.Lex.le_iff]
  exact or_congr hlt (and_congr_left fun _ => heq)

theorem orderedSegments_shifted {k : Nat} {segments : List TcpSegment} (h : Whole k segments) :
    orderedSegments (shifted k segments) = shifted k (orderedSegments segments) :=
  (List.map_insertionSort keyLe keyLe (TcpSegment.shift k) segments
    fun s hs t ht => keyLe_shift (h s hs t ht)).symm

/-- Two passes whose segments stand at the same offsets. -/
theorem mergeSegments_shifted {k base base' maxBytes : Nat} (m : Merge)
    {segments : List TcpSegment}
    (h : ∀ s ∈ segments, (s.shift k).sequence - base' = s.sequence - base) :
    mergeSegments base' maxBytes m (shifted k segments) =
      mergeSegments base maxBytes m segments := by
  induction segments generalizing m with
  | nil => rfl
  | cons s rest ih =>
    have hturn : mergeSegment base' maxBytes m (s.shift k) = mergeSegment base maxBytes m s := by
      unfold mergeSegment
      rw [h s List.mem_cons_self]
      rfl
    have hrest := ih (mergeSegment base maxBytes m s) fun t ht => h t (List.mem_cons_of_mem _ ht)
    rw [shifted, List.map_cons, mergeSegments, hturn, ← shifted, hrest, mergeSegments]

theorem passOf_shifted {k maxBytes : Nat} {segments : List TcpSegment} (h : Whole k segments) :
    passOf (shifted k segments) maxBytes = passOf segments maxBytes := by
  rw [passOf, passOf, orderedSegments_shifted h]
  apply mergeSegments_shifted
  intro s hs
  rw [firstSequence, firstSequence, orderedSegments_shifted h]
  cases hcons : orderedSegments segments with
  | nil =>
    rw [hcons] at hs
    exact absurd hs List.not_mem_nil
  | cons t rest =>
    have ht : t ∈ segments := by
      rw [← mem_orderedSegments, hcons]
      exact List.mem_cons_self
    have hle := firstSequence_le (mem_orderedSegments.mp hs)
    have hfirst : firstSequence segments = t.sequence := by
      rw [firstSequence, hcons]
      rfl
    have hshift := shift_sequence k s
    have hshift' := shift_sequence k t
    rw [← h s (mem_orderedSegments.mp hs) t ht] at hshift'
    rw [shifted, List.map_cons, List.head?_cons, List.head?_cons, Option.map_some,
      Option.map_some, Option.getD_some, Option.getD_some]
    omega

/-- A pass that ends without a gap and without a cut has met no data beyond the limit. -/
theorem complete_bounds {base maxBytes : Nat} {m : Merge} {segments : List TcpSegment}
    (hfits : m.buffer.length ≤ maxBytes)
    (hgaps : (mergeSegments base maxBytes m segments).gaps = false)
    (htruncated : (mergeSegments base maxBytes m segments).truncated = false) {s : TcpSegment}
    (hs : s ∈ segments) (hpayload : s.payload ≠ []) : s.sequence ≤ base + maxBytes := by
  induction segments generalizing m with
  | nil => exact absurd hs List.not_mem_nil
  | cons t rest ih =>
    rw [mergeSegments] at hgaps htruncated
    by_cases hstop : (mergeSegment base maxBytes m t).gaps = true ∨
        (mergeSegment base maxBytes m t).truncated = true
    · rw [if_pos hstop] at hgaps htruncated
      rw [hgaps, htruncated] at hstop
      exact absurd hstop (by decide)
    rw [if_neg hstop] at hgaps htruncated
    have hnext : (mergeSegment base maxBytes m t).buffer.length ≤ maxBytes := by
      unfold mergeSegment
      dsimp only
      split_ifs
      · exact hfits
      · exact hfits
      · exact hfits
      · exact hfits
      · rw [List.length_append, List.length_take]
        omega
      · rw [List.length_append]
        omega
    rcases List.mem_cons.mp hs with rfl | hs
    · by_contra hfar
      apply hstop
      left
      rw [mergeSegment, if_neg hpayload]
      dsimp only
      rw [if_pos (by omega)]
    · exact ih hnext hgaps htruncated hs

section Shifts

variable (upper : String → String) (srcPort dstPort : Option Int)

/-- A stream whose pass is the same is reassembled as before. -/
theorem reassemble_shifted_of_pass {k maxBytes : Nat} {segments : List TcpSegment}
    (h : passOf (shifted k segments) maxBytes = passOf segments maxBytes) :
    reassembleTcpSegments upper srcPort dstPort (shifted k segments) maxBytes =
      reassembleTcpSegments upper srcPort dstPort segments maxBytes := by
  have hlength : (shifted k segments).length = segments.length := List.length_map _
  cases segments with
  | nil => rfl
  | cons s rest =>
    have hne : shifted k (s :: rest) ≠ [] := List.cons_ne_nil _ _
    have hhead : (shifted k (s :: rest)).head? = some (s.shift k) := rfl
    by_cases hcount : (s :: rest).length ≤ maxStreamSegments
    · by_cases hmax : 1 ≤ maxBytes ∧ maxBytes ≤ maxReassembledStreamBytes
      · rw [reassemble_eq_resultOf upper srcPort dstPort hne (hlength.le.trans hcount) hmax,
          reassemble_eq_resultOf upper srcPort dstPort (List.cons_ne_nil _ _) hcount hmax, h]
      · -- both calls raise, before the order matters
        have hraise : maxBytes < 1 ∨ maxReassembledStreamBytes < maxBytes := by omega
        rw [reassembleTcpSegments, reassembleTcpSegments, hhead, List.head?_cons, getOrRaise_some,
          getOrRaise_some, ok_bind, ok_bind, hlength, raiseIf_of_not (Nat.not_lt.mpr hcount),
          ok_bind, ok_bind, raiseIf, if_pos hraise]
        rfl
    · rw [reassembleTcpSegments, reassembleTcpSegments, hhead, List.head?_cons, getOrRaise_some,
        getOrRaise_some, ok_bind, ok_bind, hlength, raiseIf, if_pos (Nat.lt_of_not_le hcount)]
      rfl

/-- **Moved on as a whole, a stream is reassembled as before.** -/
theorem reassemble_shifted {k maxBytes : Nat} {segments : List TcpSegment}
    (h : Whole k segments) :
    reassembleTcpSegments upper srcPort dstPort (shifted k segments) maxBytes =
      reassembleTcpSegments upper srcPort dstPort segments maxBytes :=
  reassemble_shifted_of_pass upper srcPort dstPort (passOf_shifted h)

/-- Without data there is nothing to put together. -/
theorem reassemble_without_data {k maxBytes : Nat} {segments : List TcpSegment}
    (hnone : dataSegments segments = []) :
    reassembleTcpSegments upper srcPort dstPort (shifted k segments) maxBytes =
      reassembleTcpSegments upper srcPort dstPort segments maxBytes := by
  apply reassemble_shifted_of_pass
  have hnone' : dataSegments (shifted k segments) = [] := by
    rw [List.eq_nil_iff_forall_not_mem]
    intro t ht
    obtain ⟨ht, hpayload⟩ := mem_dataSegments.mp ht
    obtain ⟨s, hs, rfl⟩ := List.mem_map.mp ht
    exact List.eq_nil_iff_forall_not_mem.mp hnone s (mem_dataSegments.mpr ⟨hs, hpayload⟩)
  rw [passOf_eq, passOf_eq, hnone, hnone']
  rfl

/-- A reassembly that returns was within the limits. -/
theorem reassemble_limits {segments : List TcpSegment} {maxBytes : Nat} {r : ReassembledStream}
    (h : reassembleTcpSegments upper srcPort dstPort segments maxBytes = .ok r) :
    segments ≠ [] ∧ segments.length ≤ maxStreamSegments ∧
      (1 ≤ maxBytes ∧ maxBytes ≤ maxReassembledStreamBytes) := by
  have hne : segments ≠ [] := by
    rintro rfl
    cases h
  obtain ⟨first, rest, rfl⟩ := List.exists_cons_of_ne_nil hne
  rw [reassembleTcpSegments, List.head?_cons, getOrRaise_some, ok_bind,
    raiseIf_bind_eq_ok, raiseIf_bind_eq_ok] at h
  obtain ⟨hcount, hmax, -⟩ := h
  exact ⟨hne, Nat.le_of_not_lt hcount, by omega⟩

/-- Data of a complete pass makes the same turns. -/
theorem turns_data {k maxBytes : Nat} {segments : List TcpSegment} (hspan : SpansHalf segments)
    (hmax : maxBytes ≤ maxReassembledStreamBytes)
    (hgaps : (passOf (shifted k segments) maxBytes).gaps = false)
    (htruncated : (passOf (shifted k segments) maxBytes).truncated = false) {s t : TcpSegment}
    (hs : s ∈ segments) (hpayload : s.payload ≠ []) (ht : t ∈ segments) :
    turns k t ≤ turns k s := by
  by_contra hlt
  have hmem : ∀ {u}, u ∈ segments → u.shift k ∈ shifted k segments :=
    fun hu => List.mem_map_of_mem hu
  have hbound := complete_bounds (Nat.zero_le _) hgaps htruncated
    (mem_orderedSegments.mpr (hmem hs)) hpayload
  have hfirst := firstSequence_le (hmem ht)
  have hs' := shift_sequence k s
  have ht' := shift_sequence k t
  have hst := hspan t ht s hs
  have hturns : (turns k s + 1) * sequenceSpace ≤ turns k t * sequenceSpace :=
    Nat.mul_le_mul_right _ (Nat.lt_of_not_le hlt)
  rw [Nat.add_mul, Nat.one_mul] at hturns
  simp only [maxReassembledStreamBytes] at hmax
  simp only [sequenceSpace] at hs' ht' hturns
  omega

/-- **What moving on by `k` does to a stream.**  Where no segment goes around without the others,
or none carries data, it is reassembled as before.  A stream that was complete is reassembled as
before only there. -/
theorem shift_law {k maxBytes : Nat} {segments : List TcpSegment} (hspan : SpansHalf segments) :
    (Whole k segments ∨ dataSegments segments = [] →
      (reassembleTcpSegments upper srcPort dstPort (shifted k segments) maxBytes).map summary =
        (reassembleTcpSegments upper srcPort dstPort segments maxBytes).map summary) ∧
    ∀ r, reassembleTcpSegments upper srcPort dstPort segments maxBytes = .ok r →
      r.gapsDetected = false → r.truncated = false →
      ((reassembleTcpSegments upper srcPort dstPort (shifted k segments) maxBytes).map summary =
          (reassembleTcpSegments upper srcPort dstPort segments maxBytes).map summary ↔
        Whole k segments ∨ dataSegments segments = []) := by
  have hforward : Whole k segments ∨ dataSegments segments = [] →
      (reassembleTcpSegments upper srcPort dstPort (shifted k segments) maxBytes).map summary =
        (reassembleTcpSegments upper srcPort dstPort segments maxBytes).map summary := by
    rintro (hwhole | hnone)
    · rw [reassemble_shifted upper srcPort dstPort hwhole]
    · rw [reassemble_without_data upper srcPort dstPort hnone]
  refine ⟨hforward, fun r hr hgaps htruncated => ⟨fun heq => ?_, hforward⟩⟩
  by_cases hnone : dataSegments segments = []
  · exact Or.inr hnone
  left
  obtain ⟨hne, hcount, hmax⟩ := reassemble_limits upper srcPort dstPort hr
  have hlength : (shifted k segments).length = segments.length := List.length_map _
  have hne' : shifted k segments ≠ [] := by
    intro hnil
    rw [hnil, List.length_nil] at hlength
    exact hne (List.eq_nil_of_length_eq_zero hlength.symm)
  have hok : (reassembleTcpSegments upper srcPort dstPort segments maxBytes).map summary =
      .ok (summary r) := by rw [hr]; rfl
  rw [hok, reassemble_eq_resultOf upper srcPort dstPort hne' (hlength.le.trans hcount) hmax]
    at heq
  rw [reassemble_eq_resultOf upper srcPort dstPort hne hcount hmax] at hok
  have hshown := summary_resultOf upper srcPort dstPort hok
  have hshown' := summary_resultOf upper srcPort dstPort heq
  -- neither pass has a gap or a cut
  simp only [summary, hgaps, htruncated, Prod.mk.injEq] at hshown hshown'
  obtain ⟨-, -, -, hgaps⟩ := hshown
  obtain ⟨-, -, htruncated', hgaps'⟩ := hshown'
  have hlate : ¬ StartsEarly segments := by
    intro h
    rw [passOf_early maxBytes hnone h] at hgaps
    cases hgaps
  have hle : ∀ {s t : TcpSegment}, s ∈ segments → s.payload ≠ [] → t ∈ segments →
      turns k t ≤ turns k s := fun hs hpayload ht =>
    turns_data hspan hmax.2 hgaps' htruncated' hs hpayload ht
  -- a segment without payload makes the turns of the data too, or the first pass starts early
  obtain ⟨d, hd⟩ := List.exists_mem_of_ne_nil _ hnone
  obtain ⟨hd, hpayload⟩ := mem_dataSegments.mp hd
  have hdata : ∀ t ∈ segments, t.payload ≠ [] → turns k t = turns k d := fun t ht hpayload' =>
    le_antisymm (hle hd hpayload ht) (hle ht hpayload' hd)
  have hall : ∀ t ∈ segments, turns k t = turns k d := by
    intro t ht
    refine le_antisymm (hle hd hpayload ht) ?_
    by_contra hlt
    have hempty : t.payload = [] := by
      by_contra hpayload'
      exact hlt (hdata t ht hpayload').ge
    refine hlate ⟨t, ht, hempty, ?_⟩
    intro u hu hpayload'
    by_contra hfar
    apply hlt
    rw [← hdata u hu hpayload']
    exact turns_le (Nat.le_of_not_lt hfar)
  intro s hs t ht
  rw [hall s hs, hall t ht]

end Shifts

/-- Two segments of the stream `GET /`, the second of which follows the first. -/
def following : List TcpSegment :=
  [⟨"p3", 100, [71, 69, 84], by decide⟩, ⟨"p4", 103, [32, 47], by decide⟩]

theorem spansHalf_following : SpansHalf following := by
  intro s hs t ht
  rcases List.mem_pair.mp hs with rfl | rfl
  · rcases List.mem_pair.mp ht with rfl | rfl
    · decide
    · decide
  · rcases List.mem_pair.mp ht with rfl | rfl
    · decide
    · decide

theorem following_shifted :
    (reassembleTcpSegments id none (some 80) (shifted 1000 following) 262144).map summary =
      (reassembleTcpSegments id none (some 80) following 262144).map summary := by
  apply (shift_law id none (some 80) spansHalf_following).1
  left
  intro s hs t ht
  rcases List.mem_pair.mp hs with rfl | rfl
  · rcases List.mem_pair.mp ht with rfl | rfl
    · decide
    · decide
  · rcases List.mem_pair.mp ht with rfl | rfl
    · decide
    · decide

/-- The second segment goes around, the first does not. -/
theorem wrap_changes_stream : ¬ ∀ (upper : String → String) (srcPort dstPort : Option Int)
    (k maxBytes : Nat) (segments : List TcpSegment), SpansHalf segments →
    (reassembleTcpSegments upper srcPort dstPort (shifted k segments) maxBytes).map summary =
      (reassembleTcpSegments upper srcPort dstPort segments maxBytes).map summary := by
  intro h
  have heq := h id none (some 80) (2 ^ 32 - 103) 262144 following spansHalf_following
  have hbytes := congrArg (fun r => (r.toOption.map Prod.fst : Option Nat)) heq
  have hshown : ((reassembleTcpSegments id none (some 80) (shifted (2 ^ 32 - 103) following)
      262144).map summary).toOption.map Prod.fst = some 2 := by
    decide +kernel
  have hwhole : ((reassembleTcpSegments id none (some 80) following
      262144).map summary).toOption.map Prod.fst = some 5 := by
    decide +kernel
  have htwo : some 2 = some 5 := hshown.symm.trans (hbytes.trans hwhole)
  exact absurd (Option.some.inj htwo) (by decide)

end NightRecon.RedEngine.TcpStreamReassembly
