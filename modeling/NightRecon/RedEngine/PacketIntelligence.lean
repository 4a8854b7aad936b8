import NightRecon.Lib.Grouping
import NightRecon.Lib.JsonScalars
import NightRecon.Lib.Records
import NightRecon.Lib.Sha256
import NightRecon.Lib.Urllib

/-!
# Conversations and streams of packets

`nightrecon_red_engine/packet_intelligence.py` `build_conversations` and `build_streams`.

* `conversationKey`, `streamKey` — the groups of packets: by unordered pair of addresses, and by
  unordered pair of endpoints;
* `buildConversations`, `buildStreams` — a summary of each group, in order;
* `SameFlow`, `streamKey_eq_iff` — packets have one key when they have one transport and one pair of
  endpoints, in either direction;
* `material_inj` — texts of keys tell the keys apart unless an address has a hyphen;
* `packet_groups_law` — the streams partition the packets, nothing is lost or counted twice, and the
  order of the packets is not seen.

Time stamps are of any linear order: floats that are not NaN.
-/

namespace NightRecon.RedEngine.PacketIntelligence

open NightRecon.Lib
open NightRecon.Lib.Grouping
open NightRecon.Lib.Records
open NightRecon.Lib.Text

/-! ## Packets -/

/-- What `build_conversations` and `build_streams` read of a packet.
Source: `packet_intelligence.py` `PacketObservation`. -/
structure PacketObservation (T : Type) where
  packetId : String
  timestamp : T
  src : String
  dst : String
  transport : String
  srcPort : Option Int
  dstPort : Option Int
  length : Int
  protocol : String
  tcpSequence : Option Int

/-- Source: `packet_intelligence.py` `ConversationStats`. -/
structure ConversationStats (T : Type) where
  endpointA : String
  endpointB : String
  transport : String
  packets : Nat
  bytes : Int
  firstSeen : T
  lastSeen : T

/-- Source: `packet_intelligence.py` `StreamSummary`. -/
structure StreamSummary (T : Type) where
  streamId : String
  client : String
  server : String
  transport : String
  packetIds : List String
  packets : Nat
  bytes : Int
  firstSeen : T
  lastSeen : T
  protocolHints : List String

/-- The key of a conversation. -/
structure ConversationKey where
  a : String
  b : String
  transport : String
  deriving DecidableEq

/-- The key of a stream. -/
structure StreamKey where
  a : String
  aPort : Option Int
  b : String
  bPort : Option Int
  transport : String
  deriving DecidableEq

section Model

variable {T : Type} [LinearOrder T]

/-! ## Conversations -/

/-- `tuple(sorted((src, dst)))` and the transport. -/
def conversationKey (p : PacketObservation T) : ConversationKey :=
  if p.dst < p.src then ⟨p.dst, p.src, p.transport⟩ else ⟨p.src, p.dst, p.transport⟩

/-- `sum(item.length for item in items)`. -/
def totalBytes (items : List (PacketObservation T)) : Int := (items.map (·.length)).sum

def conversationOf (g : Group ConversationKey (PacketObservation T)) : ConversationStats T where
  endpointA := g.key.a
  endpointB := g.key.b
  transport := g.key.transport
  packets := g.items.length
  bytes := totalBytes g.items
  firstSeen := g.rest.foldl (fun t p => min t p.timestamp) g.first.timestamp
  lastSeen := g.rest.foldl (fun t p => max t p.timestamp) g.first.timestamp

/-- The key by which conversations are sorted. -/
def ConversationStats.sortKey (c : ConversationStats T) : Int ×ₗ String ×ₗ String ×ₗ String :=
  toLex (-c.bytes, toLex (c.endpointA, toLex (c.endpointB, c.transport)))

/-- Source: `packet_intelligence.py` `build_conversations`. -/
def buildConversations (packets : List (PacketObservation T)) : List (ConversationStats T) :=
  ((groups conversationKey packets).map conversationOf).insertionSort
    fun c d => c.sortKey ≤ d.sortKey

/-! ## Streams -/

/-- A packet that belongs to a stream. -/
def Streamed (p : PacketObservation T) : Prop := p.transport = "tcp" ∨ p.transport = "udp"

instance (p : PacketObservation T) : Decidable (Streamed p) := inferInstanceAs (Decidable (_ ∨ _))

/-- `(address, port or 0)`. -/
def side (address : String) (port : Option Int) : String ×ₗ Int := toLex (address, port.getD 0)

def streamKey (p : PacketObservation T) : StreamKey :=
  if side p.src p.srcPort ≤ side p.dst p.dstPort then
    ⟨p.src, p.srcPort, p.dst, p.dstPort, p.transport⟩
  else ⟨p.dst, p.dstPort, p.src, p.srcPort, p.transport⟩

/-- The key by which the packets of a stream are sorted. -/
def PacketObservation.sortKey (p : PacketObservation T) : T ×ₗ Int ×ₗ String :=
  toLex (p.timestamp, toLex (p.tcpSequence.getD (-1), p.packetId))

/-- The packets of a stream in order. -/
def ordered (items : List (PacketObservation T)) : List (PacketObservation T) :=
  items.insertionSort fun p q => p.sortKey ≤ q.sortKey

theorem ordered_perm (items : List (PacketObservation T)) : (ordered items).Perm items :=
  List.perm_insertionSort _ items

theorem ordered_ne_nil {items : List (PacketObservation T)} (h : items ≠ []) :
    ordered items ≠ [] := by
  intro hnil
  have hperm := ordered_perm items
  rw [hnil] at hperm
  exact h hperm.symm.eq_nil

/-- A port as a text. -/
def portText (port : Option Int) : List Char :=
  match port with
  | some n => (toString n).toList
  | none => "None".toList

/-- The text that is hashed into the identifier of a stream. -/
def material (k : StreamKey) : List Char :=
  k.a.toList ++ ':' :: (portText k.aPort ++ '-' ::
    (k.b.toList ++ ':' :: (portText k.bPort ++ '-' :: k.transport.toList)))

/-- `"stream-" + sha256(material).hexdigest()[:20]`. -/
def streamId (material : List Char) : String :=
  "stream-" ++ String.ofList ((Sha256.hexOf material).toList.take 20)

/-- An endpoint as it is shown. -/
def endpointText (address : String) (port : Option Int) : String :=
  address ++ ":" ++ toString (port.getD 0)

/-- `tuple(sorted({item.protocol for item in items if item.protocol != "unknown"}))`. -/
def protocolHints (items : List (PacketObservation T)) : List String :=
  sortedStr ((items.map (·.protocol)).filter (· ≠ "unknown")).dedup

/-- The summary of a stream with the packets `items`. -/
def summaryOf (k : StreamKey) (items : List (PacketObservation T)) (h : items ≠ []) :
    StreamSummary T where
  streamId := streamId (material k)
  client := endpointText k.a k.aPort
  server := endpointText k.b k.bPort
  transport := k.transport
  packetIds := items.map (·.packetId)
  packets := items.length
  bytes := totalBytes items
  firstSeen := (items.head h).timestamp
  lastSeen := (items.getLast h).timestamp
  protocolHints := protocolHints items

def streamOf (g : Group StreamKey (PacketObservation T)) : StreamSummary T :=
  summaryOf g.key (ordered g.items) (ordered_ne_nil g.items_ne_nil)

/-- Source: `packet_intelligence.py` `build_streams`. -/
def buildStreams (packets : List (PacketObservation T)) : List (StreamSummary T) :=
  sortedBy (·.streamId)
    ((groups streamKey (packets.filter fun p => Streamed p)).map streamOf)

end Model

/-! ## One flow -/

section Flow

variable {T : Type}

/-- Packets between one pair of endpoints, in either direction. -/
def SameFlow (p q : PacketObservation T) : Prop :=
  p.transport = q.transport ∧
    (((p.src, p.srcPort) = (q.src, q.srcPort) ∧ (p.dst, p.dstPort) = (q.dst, q.dstPort)) ∨
      ((p.src, p.srcPort) = (q.dst, q.dstPort) ∧ (p.dst, p.dstPort) = (q.src, q.srcPort)))

/-- A packet with both of its ports. -/
def HasPorts (p : PacketObservation T) : Prop := p.srcPort.isSome = true ∧ p.dstPort.isSome = true

theorem side_inj {a b : String} {m n : Option Int} (hm : m.isSome = true) (hn : n.isSome = true)
    (h : side a m = side b n) : a = b ∧ m = n := by
  obtain ⟨m, rfl⟩ := Option.isSome_iff_exists.mp hm
  obtain ⟨n, rfl⟩ := Option.isSome_iff_exists.mp hn
  obtain ⟨hab, hmn⟩ := Prod.mk.inj (toLex.injective h)
  exact ⟨hab, congrArg some hmn⟩

/-- The keys of the two directions are one. -/
theorem streamKey_swap {p q : PacketObservation T} (hports : HasPorts p)
    (htransport : p.transport = q.transport)
    (hsrc : (p.src, p.srcPort) = (q.dst, q.dstPort))
    (hdst : (p.dst, p.dstPort) = (q.src, q.srcPort)) : streamKey p = streamKey q := by
  obtain ⟨hsrc, hsrcPort⟩ := Prod.mk.inj hsrc
  obtain ⟨hdst, hdstPort⟩ := Prod.mk.inj hdst
  rw [streamKey, streamKey, ← htransport, ← hsrc, ← hsrcPort, ← hdst, ← hdstPort]
  by_cases hle : side p.src p.srcPort ≤ side p.dst p.dstPort
  · rw [if_pos hle]
    by_cases hge : side p.dst p.dstPort ≤ side p.src p.srcPort
    · -- a packet from an endpoint to itself
      obtain ⟨ha, hp⟩ := side_inj hports.1 hports.2 (le_antisymm hle hge)
      rw [if_pos hge, ha, hp]
    · rw [if_neg hge]
  · rw [if_neg hle, if_pos (le_of_not_ge hle)]

/-- **Two packets have one key** exactly when they are of one flow. -/
theorem streamKey_eq_iff {p q : PacketObservation T} (hports : HasPorts p) :
    streamKey p = streamKey q ↔ SameFlow p q := by
  constructor
  · intro h
    unfold streamKey at h
    split at h
    · split at h
      · simp only [StreamKey.mk.injEq] at h
        obtain ⟨ha, hap, hb, hbp, ht⟩ := h
        exact ⟨ht, .inl ⟨by rw [ha, hap], by rw [hb, hbp]⟩⟩
      · simp only [StreamKey.mk.injEq] at h
        obtain ⟨ha, hap, hb, hbp, ht⟩ := h
        exact ⟨ht, .inr ⟨by rw [ha, hap], by rw [hb, hbp]⟩⟩
    · split at h
      · simp only [StreamKey.mk.injEq] at h
        obtain ⟨ha, hap, hb, hbp, ht⟩ := h
        exact ⟨ht, .inr ⟨by rw [hb, hbp], by rw [ha, hap]⟩⟩
      · simp only [StreamKey.mk.injEq] at h
        obtain ⟨ha, hap, hb, hbp, ht⟩ := h
        exact ⟨ht, .inl ⟨by rw [hb, hbp], by rw [ha, hap]⟩⟩
  · rintro ⟨htransport, ⟨hsrc, hdst⟩ | ⟨hsrc, hdst⟩⟩
    · obtain ⟨hsrc, hsrcPort⟩ := Prod.mk.inj hsrc
      obtain ⟨hdst, hdstPort⟩ := Prod.mk.inj hdst
      rw [streamKey, streamKey, htransport, hsrc, hsrcPort, hdst, hdstPort]
    · exact streamKey_swap hports htransport hsrc hdst

end Flow

/-! ## The text of a key -/

theorem notMem_digits {c : Char} (hc : isDigit c = false) (n : Nat) : c ∉ Nat.toDigits 10 n := by
  intro hmem
  rw [Json.isDigit_of_mem_toDigits hmem] at hc
  exact Bool.noConfusion hc

/-- Texts that are joined by their last colon. -/
theorem append_colon_inj {a a' d d' : List Char} (hd : ':' ∉ d) (hd' : ':' ∉ d')
    (h : a ++ ':' :: d = a' ++ ':' :: d') : a = a' ∧ d = d' := by
  have hreverse := congrArg List.reverse h
  simp only [List.reverse_append, List.reverse_cons, List.append_assoc, List.singleton_append]
    at hreverse
  have hbefore := congrArg (Urllib.before ':') hreverse
  have hafter := congrArg (Urllib.after ':') hreverse
  rw [Urllib.before_append (by rwa [List.mem_reverse]),
    Urllib.before_append (by rwa [List.mem_reverse])] at hbefore
  rw [Urllib.after_append (by rwa [List.mem_reverse]),
    Urllib.after_append (by rwa [List.mem_reverse])] at hafter
  exact ⟨List.reverse_injective hafter, List.reverse_injective hbefore⟩

/-- **An address and a port are read back** in front of a hyphen, when the address has none. -/
theorem endpoint_inj {a a' r r' : List Char} {n n' : Int} (ha : '-' ∉ a) (ha' : '-' ∉ a')
    (h : a ++ ':' :: ((toString n).toList ++ '-' :: r) =
      a' ++ ':' :: ((toString n').toList ++ '-' :: r')) : a = a' ∧ n = n' ∧ r = r' := by
  have hcolon : ∀ m : Nat, ':' ∉ Nat.toDigits 10 m := notMem_digits (by decide)
  have hhyphen : ∀ m : Nat, '-' ∉ Nat.toDigits 10 m := notMem_digits (by decide)
  have hfront : ∀ (b : List Char) (m : Nat), '-' ∉ b → '-' ∉ b ++ ':' :: Nat.toDigits 10 m := by
    intro b m hb hmem
    rcases List.mem_append.mp hmem with hmem | hmem
    · exact hb hmem
    · rcases List.mem_cons.mp hmem with heq | hmem
      · exact absurd heq (by decide)
      · exact hhyphen m hmem
  have hopen : ∀ b : List Char, '-' ∉ b → '-' ∉ b ++ [':'] := by
    intro b hb hmem
    rcases List.mem_append.mp hmem with hmem | hmem
    · exact hb hmem
    · exact absurd (List.mem_singleton.mp hmem) (by decide)
  -- what stands in front of the first hyphen ends in a digit or in a colon
  have hsign : ∀ (b b' s s' : List Char) (m m' : Nat), '-' ∉ b → '-' ∉ b' →
      b ++ ':' :: (Nat.toDigits 10 m ++ '-' :: s) ≠
        b' ++ ':' :: ('-' :: Nat.toDigits 10 m' ++ '-' :: s') := by
    intro b b' s s' m m' hb hb' heq
    have hleft : b ++ ':' :: (Nat.toDigits 10 m ++ '-' :: s) =
        (b ++ ':' :: Nat.toDigits 10 m) ++ '-' :: s := by simp
    have hright : b' ++ ':' :: ('-' :: Nat.toDigits 10 m' ++ '-' :: s') =
        (b' ++ [':']) ++ '-' :: (Nat.toDigits 10 m' ++ '-' :: s') := by simp
    rw [hleft, hright] at heq
    have hbefore := congrArg (Urllib.before '-') heq
    rw [Urllib.before_append (hfront b m hb), Urllib.before_append (hopen b' hb')] at hbefore
    have hparts : b = b' ∧ Nat.toDigits 10 m = [] :=
      append_colon_inj (hcolon m) List.not_mem_nil hbefore
    exact Nat.toDigits_ne_nil hparts.2
  have hnumber : (toString n).toList = (toString n').toList → n = n' := by
    intro htext
    have hread := Json.readNumber_toString n
    rw [htext, Json.readNumber_toString] at hread
    simpa using hread.symm
  rw [Json.toList_toString_int, Json.toList_toString_int] at h hnumber
  by_cases hn : n < 0
  · by_cases hn' : n' < 0
    · -- both are negative: the first hyphen is the sign
      rw [if_pos hn, if_pos hn'] at h hnumber
      have hleft : ∀ (b s : List Char) (m : Nat),
          b ++ ':' :: ('-' :: Nat.toDigits 10 m ++ '-' :: s) =
            (b ++ [':']) ++ '-' :: (Nat.toDigits 10 m ++ '-' :: s) := by simp
      rw [hleft, hleft] at h
      have hbefore := congrArg (Urllib.before '-') h
      have hafter := congrArg (Urllib.after '-') h
      rw [Urllib.before_append (hopen a ha), Urllib.before_append (hopen a' ha')] at hbefore
      rw [Urllib.after_append (hopen a ha), Urllib.after_append (hopen a' ha')] at hafter
      have hdigits := congrArg (Urllib.before '-') hafter
      have hrest := congrArg (Urllib.after '-') hafter
      rw [Urllib.before_append (hhyphen _), Urllib.before_append (hhyphen _)] at hdigits
      rw [Urllib.after_append (hhyphen _), Urllib.after_append (hhyphen _)] at hrest
      exact ⟨List.append_cancel_right hbefore, hnumber (by rw [hdigits]), hrest⟩
    · rw [if_pos hn, if_neg hn'] at h
      exact absurd h.symm (hsign _ _ _ _ _ _ ha' ha)
  · by_cases hn' : n' < 0
    · rw [if_neg hn, if_pos hn'] at h
      exact absurd h (hsign _ _ _ _ _ _ ha ha')
    · -- neither is: the first hyphen is the one between the endpoints
      rw [if_neg hn, if_neg hn'] at h hnumber
      have hleft : ∀ (b s : List Char) (m : Nat), b ++ ':' :: (Nat.toDigits 10 m ++ '-' :: s) =
          (b ++ ':' :: Nat.toDigits 10 m) ++ '-' :: s := by simp
      rw [hleft, hleft] at h
      have hbefore := congrArg (Urllib.before '-') h
      have hafter := congrArg (Urllib.after '-') h
      rw [Urllib.before_append (hfront a _ ha), Urllib.before_append (hfront a' _ ha')] at hbefore
      rw [Urllib.after_append (hfront a _ ha), Urllib.after_append (hfront a' _ ha')] at hafter
      obtain ⟨haddress, hdigits⟩ := append_colon_inj (hcolon _) (hcolon _) hbefore
      exact ⟨haddress, hnumber hdigits, hafter⟩

/-- No hyphen in either address. -/
def NoHyphen (k : StreamKey) : Prop := '-' ∉ k.a.toList ∧ '-' ∉ k.b.toList

/-- **Texts tell keys apart** whose addresses have no hyphen. -/
theorem material_inj {k k' : StreamKey} (hports : k.aPort.isSome = true ∧ k.bPort.isSome = true)
    (hports' : k'.aPort.isSome = true ∧ k'.bPort.isSome = true) (h : NoHyphen k)
    (h' : NoHyphen k') (heq : material k = material k') : k = k' := by
  obtain ⟨a, aPort, b, bPort, t⟩ := k
  obtain ⟨a', aPort', b', bPort', t'⟩ := k'
  obtain ⟨m, rfl⟩ := Option.isSome_iff_exists.mp hports.1
  obtain ⟨n, rfl⟩ := Option.isSome_iff_exists.mp hports.2
  obtain ⟨m', rfl⟩ := Option.isSome_iff_exists.mp hports'.1
  obtain ⟨n', rfl⟩ := Option.isSome_iff_exists.mp hports'.2
  obtain ⟨ha, hm, hrest⟩ := endpoint_inj h.1 h'.1 heq
  obtain ⟨hb, hn, ht⟩ := endpoint_inj h.2 h'.2 hrest
  obtain rfl : a = a' := String.ext ha
  obtain rfl : b = b' := String.ext hb
  obtain rfl : t = t' := String.ext ht
  rw [hm, hn]

/-! ## The groups -/

section Groups

variable {T : Type}

/-- The time stamps of a group, its first packet's in front. -/
theorem timestamps_eq {κ : Type} (g : Group κ (PacketObservation T)) :
    {s | s = g.first.timestamp ∨ ∃ p ∈ g.rest, p.timestamp = s} =
      {s | ∃ p ∈ g.items, p.timestamp = s} := by
  ext s
  simp only [Set.mem_ofPred_eq, Group.items, List.mem_cons, exists_eq_or_imp]
  exact or_congr_left eq_comm

theorem totalBytes_perm {items items' : List (PacketObservation T)} (h : items.Perm items') :
    totalBytes items = totalBytes items' := (h.map _).sum_eq

/-- The packets of a group are streamed packets of its key. -/
theorem mem_items_iff {packets : List (PacketObservation T)}
    {g : Group StreamKey (PacketObservation T)}
    (hg : g ∈ groups streamKey (packets.filter fun p => Streamed p)) {p : PacketObservation T} :
    p ∈ g.items ↔ (p ∈ packets ∧ Streamed p) ∧ streamKey p = g.key := by
  have hgrouped := grouped_groups streamKey (packets.filter fun p => Streamed p)
  rw [hgrouped.items g hg, List.mem_filter, List.mem_filter, decide_eq_true_eq, decide_eq_true_eq]

variable [LinearOrder T]

/-- The least of some values, met in a loop. -/
theorem foldl_min_isLeast {α : Type} (f : α → T) (l : List α) (t : T) :
    IsLeast {s | s = t ∨ ∃ a ∈ l, f a = s} (l.foldl (fun t a => min t (f a)) t) := by
  induction l generalizing t with
  | nil => exact ⟨.inl rfl, fun s hs => hs.elim (fun h => h.ge) fun ⟨a, ha, _⟩ =>
      absurd ha List.not_mem_nil⟩
  | cons a l ih =>
    obtain ⟨hmem, hlower⟩ := ih (min t (f a))
    rw [List.foldl_cons]
    constructor
    · rcases hmem with heq | ⟨b, hb, heq⟩
      · rcases min_choice t (f a) with hmin | hmin
        · exact .inl (heq.trans hmin)
        · exact .inr ⟨a, List.mem_cons_self, (heq.trans hmin).symm⟩
      · exact .inr ⟨b, List.mem_cons_of_mem _ hb, heq⟩
    · have hfirst := hlower (.inl rfl)
      rintro s (rfl | ⟨b, hb, rfl⟩)
      · exact hfirst.trans (min_le_left _ _)
      · rcases List.mem_cons.mp hb with rfl | hb
        · exact hfirst.trans (min_le_right _ _)
        · exact hlower (.inr ⟨b, hb, rfl⟩)

theorem foldl_max_isGreatest {α : Type} (f : α → T) (l : List α) (t : T) :
    IsGreatest {s | s = t ∨ ∃ a ∈ l, f a = s} (l.foldl (fun t a => max t (f a)) t) :=
  foldl_min_isLeast (T := Tᵒᵈ) f l t

/-- The summary of a conversation does not see the order of its packets. -/
theorem conversationOf_perm {g g' : Group ConversationKey (PacketObservation T)}
    (hkey : g.key = g'.key) (hperm : g.items.Perm g'.items) :
    conversationOf g = conversationOf g' := by
  have hset : {s | ∃ p ∈ g.items, p.timestamp = s} = {s | ∃ p ∈ g'.items, p.timestamp = s} := by
    ext s
    simp only [Set.mem_ofPred_eq, hperm.mem_iff]
  have hleast : ∀ h : Group ConversationKey (PacketObservation T),
      IsLeast {s | ∃ p ∈ h.items, p.timestamp = s}
        (h.rest.foldl (fun t p => min t p.timestamp) h.first.timestamp) := fun h =>
    timestamps_eq h ▸ foldl_min_isLeast (fun p : PacketObservation T => p.timestamp) _ _
  have hgreatest : ∀ h : Group ConversationKey (PacketObservation T),
      IsGreatest {s | ∃ p ∈ h.items, p.timestamp = s}
        (h.rest.foldl (fun t p => max t p.timestamp) h.first.timestamp) := fun h =>
    timestamps_eq h ▸ foldl_max_isGreatest (fun p : PacketObservation T => p.timestamp) _ _
  have hfirst := (hset ▸ hleast g).unique (hleast g')
  have hlast := (hset ▸ hgreatest g).unique (hgreatest g')
  rw [conversationOf, conversationOf, hkey, hperm.length_eq, totalBytes_perm hperm, hfirst, hlast]

theorem buildConversations_eq (packets : List (PacketObservation T)) :
    (buildConversations packets).Perm ((groups conversationKey packets).map conversationOf) :=
  List.perm_insertionSort _ _

/-- The conversations of packets in any order are the same. -/
theorem buildConversations_perm {packets packets' : List (PacketObservation T)}
    (hperm : packets.Perm packets') : buildConversations packets = buildConversations packets' := by
  have hresults : ((groups conversationKey packets).map conversationOf).Perm
      ((groups conversationKey packets').map conversationOf) :=
    map_groups_perm hperm fun g _ g' _ hkey hitems => conversationOf_perm hkey hitems
  -- the key of a conversation is in the key by which it is sorted
  have hnodup : ∀ packets : List (PacketObservation T),
      (((groups conversationKey packets).map conversationOf).map
        ConversationStats.sortKey).Nodup := by
    intro packets
    have hkeys := (grouped_groups conversationKey packets).nodup
    apply List.Nodup.of_map fun k : Int ×ₗ String ×ₗ String ×ₗ String =>
      (⟨(ofLex (ofLex k).2).1, (ofLex (ofLex (ofLex k).2).2).1,
        (ofLex (ofLex (ofLex k).2).2).2⟩ : ConversationKey)
    rw [List.map_map, List.map_map]
    exact hkeys
  refine eq_of_strict (insertionSort_strict (hnodup packets))
    (insertionSort_strict (hnodup packets')) fun c => ?_
  exact (((buildConversations_eq packets).trans hresults).trans
    (buildConversations_eq packets').symm).mem_iff

/-! ## Streams -/

variable {packets packets' : List (PacketObservation T)}

/-- The packets of a stream in order, whatever order they come in. -/
theorem ordered_eq_of_perm {items items' : List (PacketObservation T)} (hperm : items.Perm items')
    (hids : (items.map (·.packetId)).Nodup) : ordered items = ordered items' := by
  have hnodup : ∀ l : List (PacketObservation T), (l.map (·.packetId)).Nodup →
      (l.map PacketObservation.sortKey).Nodup := by
    intro l hl
    apply List.Nodup.of_map fun k : T ×ₗ Int ×ₗ String => (ofLex (ofLex k).2).2
    rw [List.map_map]
    exact hl
  refine eq_of_strict (insertionSort_strict (hnodup items hids))
    (insertionSort_strict (hnodup items' ((hperm.map _).nodup_iff.mp hids))) fun p => ?_
  exact (((ordered_perm items).trans hperm).trans (ordered_perm items').symm).mem_iff

theorem streamOf_perm {g g' : Group StreamKey (PacketObservation T)} (hkey : g.key = g'.key)
    (hperm : g.items.Perm g'.items) (hids : (g.items.map (·.packetId)).Nodup) :
    streamOf g = streamOf g' := by
  have hcongr : ∀ {k k' : StreamKey} {l l' : List (PacketObservation T)} (h : l ≠ [])
      (h' : l' ≠ []), k = k' → l = l' → summaryOf k l h = summaryOf k' l' h' := by
    rintro k _ l _ h h' rfl rfl
    rfl
  exact hcongr _ _ hkey (ordered_eq_of_perm hperm hids)

theorem buildStreams_eq (packets : List (PacketObservation T)) : (buildStreams packets).Perm
    ((groups streamKey (packets.filter fun p => Streamed p)).map streamOf) := sortedBy_perm _ _

theorem mem_buildStreams {s : StreamSummary T} : s ∈ buildStreams packets ↔
    ∃ g ∈ groups streamKey (packets.filter fun p => Streamed p), streamOf g = s := by
  rw [(buildStreams_eq packets).mem_iff, List.mem_map]

/-- The packets whose identifiers a stream lists are the packets of its group. -/
theorem mem_packetIds_iff (hids : (packets.map (·.packetId)).Nodup)
    {g : Group StreamKey (PacketObservation T)}
    (hg : g ∈ groups streamKey (packets.filter fun p => Streamed p)) {p : PacketObservation T}
    (hp : p ∈ packets) (hstreamed : Streamed p) :
    p.packetId ∈ (streamOf g).packetIds ↔ streamKey p = g.key := by
  have hmem : p.packetId ∈ (streamOf g).packetIds ↔ p ∈ g.items := by
    show p.packetId ∈ (ordered g.items).map (·.packetId) ↔ _
    rw [((ordered_perm g.items).map _).mem_iff, List.mem_map]
    constructor
    · rintro ⟨q, hq, hid⟩
      have hq' := ((mem_items_iff hg).mp hq).1.1
      rwa [← List.inj_on_of_nodup_map hids hq' hp hid]
    · intro hp'
      exact ⟨p, hp', rfl⟩
  rw [hmem, mem_items_iff hg]
  exact ⟨fun h => h.2, fun h => ⟨⟨hp, hstreamed⟩, h⟩⟩

end Groups

/-! ## The law -/

/-- **What holds of the groups of some packets.**  The streams list the identifier of every TCP and
UDP packet once; two packets are in one stream when they are of one flow; keys whose addresses have
no hyphen are hashed from texts of their own; no packet and no byte is lost or counted twice; and the
order of the packets is not seen, in the streams unless two of them have one identifier. -/
structure GroupsLaw {T : Type} [LinearOrder T] (packets : List (PacketObservation T)) : Prop where
  partition : ((buildStreams packets).flatMap (·.packetIds)).Perm
    ((packets.filter fun p => Streamed p).map (·.packetId))
  one_flow : ∀ p ∈ packets, ∀ q ∈ packets, Streamed p → Streamed q →
    ((∃ s ∈ buildStreams packets, p.packetId ∈ s.packetIds ∧ q.packetId ∈ s.packetIds) ↔
      SameFlow p q)
  material_inj : (∀ p ∈ packets, '-' ∉ p.src.toList ∧ '-' ∉ p.dst.toList) →
    ∀ p ∈ packets, ∀ q ∈ packets, Streamed p → Streamed q →
      material (streamKey p) = material (streamKey q) → SameFlow p q
  stream_packets : ((buildStreams packets).map (·.packets)).sum =
    (packets.filter fun p => Streamed p).length
  stream_bytes : ((buildStreams packets).map (·.bytes)).sum =
    totalBytes (packets.filter fun p => Streamed p)
  conversation_packets : ((buildConversations packets).map (·.packets)).sum = packets.length
  conversation_bytes : ((buildConversations packets).map (·.bytes)).sum = totalBytes packets
  conversation_order : ∀ packets', packets.Perm packets' →
    buildConversations packets = buildConversations packets'
  stream_order : (∀ p ∈ packets, ∀ q ∈ packets, Streamed p → Streamed q →
      streamId (material (streamKey p)) = streamId (material (streamKey q)) → SameFlow p q) →
    ∀ packets', packets.Perm packets' → buildStreams packets = buildStreams packets'

/-- The sizes of groups are what is in them. -/
theorem sum_lengths {κ α : Type} [DecidableEq κ] (key : α → κ) (l : List α) :
    ((groups key l).map fun g => g.items.length).sum = l.length := by
  have hlength := (flatMap_items_perm key l).length_eq
  rwa [List.length_flatMap] at hlength

/-- The addresses of a key are those of its packet. -/
theorem noHyphen_streamKey {T : Type} {p : PacketObservation T}
    (h : '-' ∉ p.src.toList ∧ '-' ∉ p.dst.toList) : NoHyphen (streamKey p) := by
  unfold streamKey
  split
  · exact h
  · exact ⟨h.2, h.1⟩

theorem ports_streamKey {T : Type} {p : PacketObservation T} (h : HasPorts p) :
    (streamKey p).aPort.isSome = true ∧ (streamKey p).bPort.isSome = true := by
  unfold streamKey
  split
  · exact h
  · exact ⟨h.2, h.1⟩

/-- **The groups of packets** with differing identifiers, where TCP and UDP packets have ports. -/
theorem packet_groups_law {T : Type} [LinearOrder T] (packets : List (PacketObservation T))
    (hids : (packets.map (·.packetId)).Nodup)
    (hports : ∀ p ∈ packets, Streamed p → HasPorts p) : GroupsLaw packets := by
  have hgrouped := grouped_groups streamKey (packets.filter fun p => Streamed p)
  refine ⟨?_, ?_, ?_, ?_, ?_, ?_, ?_, fun packets' hperm => buildConversations_perm hperm, ?_⟩
  · have hstreams : ((buildStreams packets).flatMap (·.packetIds)).Perm
        (((groups streamKey (packets.filter fun p => Streamed p)).map streamOf).flatMap
          (·.packetIds)) := (buildStreams_eq packets).flatMap_right _
    refine hstreams.trans ?_
    rw [List.flatMap_map]
    have hitems : ((groups streamKey (packets.filter fun p => Streamed p)).flatMap
        fun g => (streamOf g).packetIds).Perm
          ((groups streamKey (packets.filter fun p => Streamed p)).flatMap
            fun g => g.items.map (·.packetId)) :=
      List.Perm.flatMap_left _ fun g _ => (ordered_perm g.items).map _
    refine hitems.trans ?_
    rw [← List.map_flatMap]
    exact (flatMap_items_perm streamKey _).map _
  · intro p hp q hq hstreamed hstreamed'
    rw [← streamKey_eq_iff (hports p hp hstreamed)]
    constructor
    · rintro ⟨s, hs, hmem, hmem'⟩
      obtain ⟨g, hg, rfl⟩ := mem_buildStreams.mp hs
      rw [mem_packetIds_iff hids hg hp hstreamed] at hmem
      rw [mem_packetIds_iff hids hg hq hstreamed'] at hmem'
      rw [hmem, hmem']
    · intro hkey
      have hin : streamKey p ∈ (packets.filter fun p => Streamed p).map streamKey :=
        List.mem_map_of_mem (List.mem_filter.mpr ⟨hp, decide_eq_true hstreamed⟩)
      obtain ⟨g, hg, hgkey⟩ := List.mem_map.mp ((hgrouped.mem_keys _).mpr hin)
      refine ⟨streamOf g, mem_buildStreams.mpr ⟨g, hg, rfl⟩, ?_, ?_⟩
      · rw [mem_packetIds_iff hids hg hp hstreamed, hgkey]
      · rw [mem_packetIds_iff hids hg hq hstreamed', hgkey, hkey]
  · intro haddresses p hp q hq hstreamed hstreamed' heq
    rw [← streamKey_eq_iff (hports p hp hstreamed)]
    exact material_inj (ports_streamKey (hports p hp hstreamed))
      (ports_streamKey (hports q hq hstreamed')) (noHyphen_streamKey (haddresses p hp))
      (noHyphen_streamKey (haddresses q hq)) heq
  · rw [((buildStreams_eq packets).map _).sum_eq, List.map_map, ← sum_lengths streamKey]
    exact congrArg List.sum (List.map_congr_left fun g _ => (ordered_perm g.items).length_eq)
  · have hsum := sum_groups streamKey (fun p : PacketObservation T => p.length)
      (packets.filter fun p => Streamed p)
    rw [((buildStreams_eq packets).map _).sum_eq, List.map_map, totalBytes, ← hsum]
    exact congrArg List.sum (List.map_congr_left fun g _ => totalBytes_perm (ordered_perm g.items))
  · rw [((buildConversations_eq packets).map _).sum_eq, List.map_map,
      ← sum_lengths conversationKey]
    rfl
  · have hsum := sum_groups conversationKey (fun p : PacketObservation T => p.length)
      packets
    rw [((buildConversations_eq packets).map _).sum_eq, List.map_map, totalBytes, ← hsum]
    rfl
  · intro hdistinct packets' hperm
    have hfilter : (packets.filter fun p => Streamed p).Perm
        (packets'.filter fun p => Streamed p) := hperm.filter _
    have hresults : ((groups streamKey (packets.filter fun p => Streamed p)).map streamOf).Perm
        ((groups streamKey (packets'.filter fun p => Streamed p)).map streamOf) := by
      refine map_groups_perm hfilter fun g hg g' _ hkey hitems => streamOf_perm hkey hitems ?_
      rw [hgrouped.items g hg]
      exact hids.sublist ((List.filter_sublist.trans List.filter_sublist).map _)
    have hnodup : (((groups streamKey (packets.filter fun p => Streamed p)).map streamOf).map
        (·.streamId)).Nodup := by
      rw [List.map_map]
      have hkeys : (((groups streamKey (packets.filter fun p => Streamed p)).map (·.key)).map
          fun k => streamId (material k)).Nodup := by
        refine hgrouped.nodup.map_on fun k hk k' hk' hid => ?_
        -- each key is the key of a packet
        rw [hgrouped.mem_keys, List.mem_map] at hk hk'
        obtain ⟨p, hp, rfl⟩ := hk
        obtain ⟨q, hq, rfl⟩ := hk'
        rw [List.mem_filter, decide_eq_true_eq] at hp hq
        rw [streamKey_eq_iff (hports p hp.1 hp.2)]
        exact hdistinct p hp.1 q hq.1 hp.2 hq.2 hid
      rwa [List.map_map] at hkeys
    refine eq_of_strict (insertionSort_strict hnodup)
      (insertionSort_strict ((hresults.map _).nodup_iff.mp hnodup)) fun s => ?_
    exact (((buildStreams_eq packets).trans hresults).trans
      (buildStreams_eq packets').symm).mem_iff

/-! ### Packets on two flows -/

/-- A TCP packet. -/
def tcpPacket (packetId src : String) (srcPort : Int) (dst : String) (dstPort : Int) :
    PacketObservation Int where
  packetId := packetId
  timestamp := 0
  src := src
  dst := dst
  transport := "tcp"
  srcPort := some srcPort
  dstPort := some dstPort
  length := 60
  protocol := "unknown"
  tcpSequence := none

/-- A connection to a port, and its answer. -/
theorem packet_groups_of_answer : GroupsLaw
    [tcpPacket "p" "192.0.2.1" 40000 "192.0.2.2" 443,
      tcpPacket "q" "192.0.2.2" 443 "192.0.2.1" 40000] := by
  refine packet_groups_law _ (by decide) fun p hp _ => ?_
  rcases List.mem_cons.mp hp with rfl | hp
  · exact ⟨rfl, rfl⟩
  · obtain rfl := List.mem_singleton.mp hp
    exact ⟨rfl, rfl⟩

/-- A packet from an address of `n` letters. -/
def lettersPacket (packetId : String) (n : Nat) : PacketObservation Int :=
  tcpPacket packetId (String.ofList (List.replicate n 'a')) 1 "b" 2

/-- The key of such a packet. -/
def lettersKey (n : Nat) : StreamKey :=
  ⟨String.ofList (List.replicate n 'a'), some 1, "b", some 2, "tcp"⟩

theorem streamKey_letters (packetId : String) (n : Nat) :
    streamKey (lettersPacket packetId n) = lettersKey n := by
  have hlt : String.ofList (List.replicate n 'a') < "b" := by
    rw [String.lt_iff_toList_lt, String.toList_ofList]
    cases n with
    | zero => exact List.Lex.nil
    | succ n => exact List.Lex.rel (by decide)
  have hle : side (lettersPacket packetId n).src (lettersPacket packetId n).srcPort ≤
      side (lettersPacket packetId n).dst (lettersPacket packetId n).dstPort :=
    Prod.Lex.toLex_le_toLex.mpr (.inl hlt)
  unfold streamKey
  rw [if_pos hle]
  rfl

theorem lettersKey_injective : Function.Injective lettersKey := by
  intro m n h
  have ha := congrArg String.toList (StreamKey.mk.inj h).1
  rw [String.toList_ofList, String.toList_ofList] at ha
  have hlength := congrArg List.length ha
  rwa [List.length_replicate, List.length_replicate] at hlength

/-- Identifiers are of bounded length, so two flows share one. -/
theorem exists_shared_streamId : ∃ m n, m ≠ n ∧
    streamId (material (lettersKey m)) = streamId (material (lettersKey n)) := by
  have : Finite Char := Finite.of_injective (fun c : Char => c.val.toFin) fun c d h =>
    Char.ext (UInt32.toFin_inj.mp h)
  have hmaps : Set.MapsTo (fun n => (Sha256.hexOf (material (lettersKey n))).toList.take 20)
      Set.univ {l : List Char | l.length ≤ 20} := fun n _ => List.length_take_le _ _
  obtain ⟨m, -, n, -, hne, heq⟩ := Set.infinite_univ.exists_ne_map_eq_of_mapsTo hmaps
    (List.finite_length_le Char 20)
  exact ⟨m, n, hne, congrArg (fun l => "stream-" ++ String.ofList l) heq⟩

/-- Streams with one identifier stand in the order of their first packets. -/
theorem buildStreams_letters {m n : Nat} (hne : m ≠ n)
    (hid : streamId (material (lettersKey m)) = streamId (material (lettersKey n)))
    (i j : String) :
    (buildStreams [lettersPacket i m, lettersPacket j n]).map (·.client) =
      [endpointText (lettersKey m).a (some 1), endpointText (lettersKey n).a (some 1)] := by
  have hkey : lettersKey m ≠ lettersKey n := fun h => hne (lettersKey_injective h)
  have hstreamed : [lettersPacket i m, lettersPacket j n].filter (fun p => Streamed p) =
      [lettersPacket i m, lettersPacket j n] := rfl
  have hgroups : groups streamKey [lettersPacket i m, lettersPacket j n] =
      [⟨lettersKey m, lettersPacket i m, []⟩, ⟨lettersKey n, lettersPacket j n, []⟩] := by
    simp only [groups, List.foldl_cons, List.foldl_nil, addTo, streamKey_letters, if_neg hkey]
  have hle : (streamOf ⟨lettersKey m, lettersPacket i m, []⟩).streamId ≤
      (streamOf ⟨lettersKey n, lettersPacket j n, []⟩).streamId := le_of_eq hid
  rw [buildStreams, hstreamed, hgroups]
  simp only [sortedBy, List.map_cons, List.map_nil, List.insertionSort_cons,
    List.insertionSort_nil, List.orderedInsert, if_pos hle]
  rfl

/-- An address with a hyphen gives two flows one text, and flows with one identifier are listed in
the order in which they are met. -/
theorem hyphen_joins_flows :
    (¬ ∀ packets : List (PacketObservation Int), (packets.map (·.packetId)).Nodup →
      (∀ p ∈ packets, Streamed p → HasPorts p) → ∀ p ∈ packets, ∀ q ∈ packets, Streamed p →
        Streamed q → material (streamKey p) = material (streamKey q) → SameFlow p q) ∧
    ¬ ∀ packets packets' : List (PacketObservation Int), (packets.map (·.packetId)).Nodup →
      (∀ p ∈ packets, Streamed p → HasPorts p) → packets.Perm packets' →
        buildStreams packets = buildStreams packets' := by
  constructor
  · intro h
    have hsame := h [tcpPacket "p" "a" 1 "b:2-c" 3, tcpPacket "q" "a:1-b" 2 "c" 3] (by decide)
      (by
        intro p hp _
        rcases List.mem_cons.mp hp with rfl | hp
        · exact ⟨rfl, rfl⟩
        · obtain rfl := List.mem_singleton.mp hp
          exact ⟨rfl, rfl⟩)
      _ List.mem_cons_self _ (List.mem_cons_of_mem _ List.mem_cons_self) (.inl rfl) (.inl rfl)
      (by decide +kernel)
    obtain ⟨-, ⟨hsrc, -⟩ | ⟨hsrc, -⟩⟩ := hsame
    · exact absurd (Prod.mk.inj hsrc).1 (by decide)
    · exact absurd (Prod.mk.inj hsrc).1 (by decide)
  · intro h
    obtain ⟨m, n, hne, hid⟩ := exists_shared_streamId
    have hperm := h [lettersPacket "p" m, lettersPacket "q" n]
      [lettersPacket "q" n, lettersPacket "p" m]
      (show ["p", "q"].Nodup by decide)
      (by
        intro p hp _
        rcases List.mem_cons.mp hp with rfl | hp
        · exact ⟨rfl, rfl⟩
        · obtain rfl := List.mem_singleton.mp hp
          exact ⟨rfl, rfl⟩)
      (List.Perm.swap _ _ _)
    have hclients := congrArg (List.map (·.client)) hperm
    rw [buildStreams_letters hne hid, buildStreams_letters hne.symm hid.symm] at hclients
    have hclient := congrArg String.toList (List.cons.inj hclients).1
    rw [endpointText, endpointText] at hclient
    simp only [String.toList_append] at hclient
    have haddress := String.ext (List.append_cancel_right (List.append_cancel_right hclient))
    exact hne (lettersKey_injective (congrArg (StreamKey.mk · (some 1) "b" (some 2) "tcp") haddress))

end NightRecon.RedEngine.PacketIntelligence
