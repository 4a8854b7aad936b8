import NightRecon.Lib.Collect
import NightRecon.Lib.Ipaddress
import NightRecon.Lib.Records
import NightRecon.Lib.Tally
import NightRecon.RedEngine.ClientHello

/-!
# Conversations of a packet capture

`nightrecon_red_engine/pcap_import.py`: a classic capture file is read record by record, and the
packets are counted by conversation.

* `parsePcap` — the reader, where a read outside the buffer raises an error of its own;
* `Capture`, `bytes` — a capture file in either byte order and either precision; `Carries` — the
  frames that carry an IP packet;
* `decodeFrame_iff` — exactly these are decoded, to the addresses and the protocol of the packet;
* `Counted` — what the loop has counted, the invariant of its turns; `readRecords_iff`;
* `parse_pcap_law` — reads stay in the buffer, and the counts of every capture are exact.
-/

namespace NightRecon.RedEngine.PcapImport

open NightRecon.Lib
open NightRecon.Lib.Assoc
open NightRecon.Lib.Bytes
open NightRecon.Lib.Checks
open NightRecon.Lib.Ipaddress
open NightRecon.Lib.Tally
open NightRecon.RedEngine.ProtocolDissectors

def maxPcapBytes : Nat := 16 * 1024 * 1024

def maxPackets : Nat := 100000

def maxCapturedPacket : Nat := 262144

/-- Source, destination and protocol of a packet. -/
abbrev Key : Type := String × String × String

/-- Source: `pcap_import.py` `PacketConversation`. -/
structure PacketConversation where
  source : String
  destination : String
  protocol : String
  packets : Nat
  deriving DecidableEq

/-- Source: `pcap_import.py` `PcapEvidence`. -/
structure PcapEvidence where
  source : String
  packetCount : Nat
  decodedPackets : Nat
  conversations : List PacketConversation
  deriving DecidableEq

/-! ## Reads -/

inductive Endian where
  | little
  | big
  deriving DecidableEq

/-- The number of some bytes in a byte order. -/
def Endian.number : Endian → List UInt8 → Nat
  | .little, data => littleEndian data
  | .big, data => bigEndian data

/-- The bytes that `struct.unpack_from` reads at `offset`. -/
def unpackFrom (data : List UInt8) (size offset : Nat) : Py (List UInt8) := do
  raiseIf (data.length < offset + size)
    ⟨.structError, "unpack_from requires a buffer of at least " ++ toString (offset + size) ++
      " bytes for unpacking " ++ toString size ++ " bytes at offset " ++ toString offset ++
      " (actual buffer size is " ++ toString data.length ++ ")"⟩
  return slice data offset size

/-- `str(ipaddress.IPv4Address(data))`; the text of the error leaves the bytes out. -/
def ipv4Text (data : List UInt8) : Py String := do
  raiseIf (data.length ≠ 4) (valueError ("(len " ++ toString data.length ++
    " != 4) is not permitted as an IPv4 address"))
  return String.ofList (ipv4Chars (bigEndian data))

/-- `str(ipaddress.IPv6Address(data))`; the text of the error leaves the bytes out. -/
def ipv6Text (data : List UInt8) : Py String := do
  raiseIf (data.length ≠ 16) (valueError ("(len " ++ toString data.length ++
    " != 16) is not permitted as an IPv6 address"))
  return String.ofList (ipv6Chars (bigEndian data))

/-! ## One frame -/

/-- The loop over the VLAN tags: the ethertype behind them, and where it ends. -/
def skipTags (frame : List UInt8) : Nat → Nat → Nat → Py (Nat × Nat)
  | 0, ethertype, cursor => return (ethertype, cursor)
  | n + 1, ethertype, cursor =>
      if (ethertype ≠ 0x8100 ∧ ethertype ≠ 0x88A8) ∨ frame.length < cursor + 4 then
        return (ethertype, cursor)
      else do
        let next ← unpackFrom frame 2 (cursor + 2)
        skipTags frame n (bigEndian next) (cursor + 4)

/-- The family of an ethertype. -/
def familyOf (ethertype : Nat) : Option Nat :=
  if ethertype = 0x0800 then some 4 else if ethertype = 0x86DD then some 6 else none

/-- The family of a frame and the packet in it; `none` where the frame is skipped. -/
def linkPayload (network : Nat) (frame : List UInt8) : Py (Option (Option Nat × List UInt8)) :=
  if network = 1 then
    if frame.length < 14 then return none
    else do
      let first ← unpackFrom frame 2 12
      let (ethertype, cursor) ← skipTags frame 2 (bigEndian first) 14
      return some (familyOf ethertype, frame.drop cursor)
  else if network ∈ [101, 228, 229] then
    if network = 228 then return some (some 4, frame)
    else if network = 229 then return some (some 6, frame)
    else if frame = [] then return some (none, frame)
    else do
      let first ← viewIndex frame 0
      return some (some (first >>> 4), frame)
  else return some (none, frame)

/-- The name of a protocol number. -/
def protocolName (n : Nat) : String :=
  if n = 6 then "tcp" else if n = 17 then "udp" else if n = 1 then "icmp"
  else if n = 58 then "icmpv6" else "other"

/-- The conversation of an IPv4 packet. -/
def ipv4Key (raw : List UInt8) : Py (Option Key) :=
  if raw.length < 20 then return none
  else do
    let first ← viewIndex raw 0
    if first >>> 4 ≠ 4 then return none
    else
      let headerLength := (first &&& 15) * 4
      if headerLength < 20 ∨ raw.length < headerLength then return none
      else do
        let src ← ipv4Text (slice raw 12 4)
        let dst ← ipv4Text (slice raw 16 4)
        let protocolNum ← viewIndex raw 9
        return some (src, dst, protocolName protocolNum)

/-- The conversation of an IPv6 packet. -/
def ipv6Key (raw : List UInt8) : Py (Option Key) :=
  if raw.length < 40 then return none
  else do
    let first ← viewIndex raw 0
    if first >>> 4 ≠ 6 then return none
    else do
      let src ← ipv6Text (slice raw 8 16)
      let dst ← ipv6Text (slice raw 24 16)
      let protocolNum ← viewIndex raw 6
      return some (src, dst, protocolName protocolNum)

/-- The conversation of a frame; `none` where the loop goes on without one. -/
def decodeFrame (network : Nat) (frame : List UInt8) : Py (Option Key) := do
  match ← linkPayload network frame with
  | none => return none
  | some (family, raw) =>
      if family = some 4 then ipv4Key raw
      else if family = some 6 then ipv6Key raw
      else return none

/-! ## The file -/

/-- What the loop over the records has counted. -/
structure Scan where
  counts : List (Key × Nat)
  packets : Nat
  decoded : Nat

/-- What the loop makes of the conversation of a frame. -/
def Scan.count (scan : Scan) : Option Key → Scan
  | none => scan
  | some key =>
      { scan with
        counts := assign scan.counts key (usage scan.counts key + 1)
        decoded := scan.decoded + 1 }

/-- The loop over the records, from `offset`. -/
def readRecords (endian : Endian) (snaplen network : Nat) (data : List UInt8) (offset : Nat)
    (scan : Scan) : Py Scan :=
  if offset < data.length then do
    raiseIf (data.length - offset < 16) (valueError "Truncated PCAP packet header.")
    let header ← unpackFrom data 16 offset
    let included := endian.number (slice header 8 4)
    let original := endian.number (slice header 12 4)
    raiseIf (maxCapturedPacket < included ∨ snaplen < included ∨ original < included)
      (valueError "Invalid PCAP packet length.")
    raiseIf (data.length - (offset + 16) < included) (valueError "Truncated PCAP packet data.")
    let frame := slice data (offset + 16) included
    raiseIf (maxPackets < scan.packets + 1) (valueError "Too many PCAP packets.")
    let key ← decodeFrame network frame
    readRecords endian snaplen network data (offset + 16 + included)
      ({ scan with packets := scan.packets + 1 }.count key)
  else return scan
termination_by data.length - offset

/-- The order of `sorted(counts.items())`. -/
def countLe (a b : Key × Nat) : Prop :=
  (toLex (a.1.1, toLex (a.1.2.1, toLex (a.1.2.2, a.2))) :
      String ×ₗ String ×ₗ String ×ₗ Nat) ≤
    toLex (b.1.1, toLex (b.1.2.1, toLex (b.1.2.2, b.2)))

instance : DecidableRel countLe := fun a b => inferInstanceAs (Decidable
  ((toLex (a.1.1, toLex (a.1.2.1, toLex (a.1.2.2, a.2))) :
      String ×ₗ String ×ₗ String ×ₗ Nat) ≤
    toLex (b.1.1, toLex (b.1.2.1, toLex (b.1.2.2, b.2)))))

/-- The evidence of the counts. -/
def Scan.evidence (scan : Scan) : PcapEvidence where
  source := "pcap-metadata-unverified"
  packetCount := scan.packets
  decodedPackets := scan.decoded
  conversations := (scan.counts.insertionSort countLe).map fun c =>
    ⟨c.1.1, c.1.2.1, c.1.2.2, c.2⟩

/-- The byte order of a magic number. -/
def endianOf (magic : List UInt8) : Option Endian :=
  if magic ∈ [[0xd4, 0xc3, 0xb2, 0xa1], [0x4d, 0x3c, 0xb2, 0xa1]] then some .little
  else if magic ∈ [[0xa1, 0xb2, 0xc3, 0xd4], [0xa1, 0xb2, 0x3c, 0x4d]] then some .big
  else none

/-- Source: `pcap_import.py` `parse_pcap`. -/
def parsePcap (data : List UInt8) : Py PcapEvidence := do
  raiseIf (maxPcapBytes < data.length) (valueError "PCAP exceeds the configured size limit.")
  raiseIf (data.length < 24) (valueError "Truncated PCAP global header.")
  let endian ← getOrRaise (endianOf (data.take 4))
    (valueError "Unsupported PCAP format or byte order.")
  let header ← unpackFrom data 20 4
  let major := endian.number (slice header 0 2)
  let minor := endian.number (slice header 2 2)
  let snaplen := endian.number (slice header 12 4)
  let network := endian.number (slice header 16 4)
  raiseIf ((major, minor) ≠ (2, 4) ∨ snaplen < 1) (valueError "Invalid PCAP header.")
  raiseIf (network ∉ [1, 101, 228, 229]) (valueError "Unsupported PCAP link type.")
  let scan ← readRecords endian snaplen network data 24 ⟨[], 0, 0⟩
  return scan.evidence

/-! ## Packets -/

/-- An IPv4 packet: its header with the options, and what it carries. -/
structure Ipv4Packet where
  /-- From the type of service to the time to live. -/
  service : List UInt8
  protocol : UInt8
  checksum : List UInt8
  source : List UInt8
  destination : List UInt8
  options : List UInt8
  payload : List UInt8
  service_length : service.length = 8
  checksum_length : checksum.length = 2
  source_length : source.length = 4
  destination_length : destination.length = 4
  options_length : options.length % 4 = 0 ∧ options.length ≤ 40

def Ipv4Packet.bytes (p : Ipv4Packet) : List UInt8 :=
  UInt8.ofNat (0x40 + (5 + p.options.length / 4)) :: (p.service ++ (p.protocol :: (p.checksum ++
    (p.source ++ (p.destination ++ (p.options ++ p.payload))))))

def Ipv4Packet.key (p : Ipv4Packet) : Key :=
  (String.ofList (ipv4Chars (bigEndian p.source)),
    String.ofList (ipv4Chars (bigEndian p.destination)), protocolName p.protocol.toNat)

/-- An IPv6 packet: its header, and what it carries. -/
structure Ipv6Packet where
  trafficClass : Nat
  /-- The rest of the traffic class, the flow label and the payload length. -/
  flow : List UInt8
  nextHeader : UInt8
  hopLimit : UInt8
  source : List UInt8
  destination : List UInt8
  payload : List UInt8
  trafficClass_lt : trafficClass < 16
  flow_length : flow.length = 5
  source_length : source.length = 16
  destination_length : destination.length = 16

def Ipv6Packet.bytes (p : Ipv6Packet) : List UInt8 :=
  UInt8.ofNat (0x60 + p.trafficClass) :: (p.flow ++ (p.nextHeader :: p.hopLimit ::
    (p.source ++ (p.destination ++ p.payload))))

def Ipv6Packet.key (p : Ipv6Packet) : Key :=
  (String.ofList (ipv6Chars (bigEndian p.source)),
    String.ofList (ipv6Chars (bigEndian p.destination)), protocolName p.nextHeader.toNat)

inductive Packet where
  | ipv4 (p : Ipv4Packet)
  | ipv6 (p : Ipv6Packet)

def Packet.bytes : Packet → List UInt8
  | .ipv4 p => p.bytes
  | .ipv6 p => p.bytes

def Packet.key : Packet → Key
  | .ipv4 p => p.key
  | .ipv6 p => p.key

def Packet.etherType : Packet → Nat
  | .ipv4 _ => 0x0800
  | .ipv6 _ => 0x86DD

/-- A VLAN tag in front of an ethertype. -/
structure Tag where
  tpid : Nat
  control : List UInt8
  tpid_mem : tpid = 0x8100 ∨ tpid = 0x88A8
  control_length : control.length = 2

def Tag.bytes (g : Tag) : List UInt8 := beBytes 2 g.tpid ++ g.control

/-- **The frame carries the packet**, on a link of the type. -/
inductive Carries : Nat → List UInt8 → Packet → Prop where
  | ethernet {addresses : List UInt8} {tags : List Tag} (p : Packet)
      (haddresses : addresses.length = 12) (htags : tags.length ≤ 2) :
      Carries 1 (addresses ++ (tags.flatMap Tag.bytes ++ (beBytes 2 p.etherType ++ p.bytes))) p
  | raw (p : Packet) : Carries 101 p.bytes p
  | ipv4 (p : Ipv4Packet) : Carries 228 p.bytes (.ipv4 p)
  | ipv6 (p : Ipv6Packet) : Carries 229 p.bytes (.ipv6 p)

/-! ## Decoding -/

theorem unpackFrom_of_le {data : List UInt8} {size offset : Nat} (h : offset + size ≤ data.length) :
    unpackFrom data size offset = .ok (slice data offset size) := by
  rw [unpackFrom, raiseIf_of_not (Nat.not_lt.mpr h), ok_bind, pure_eq_ok]

theorem length_slice {data : List UInt8} {start count : Nat} (h : start + count ≤ data.length) :
    (slice data start count).length = count := by
  rw [slice, List.length_take, List.length_drop]
  omega

/-- The rest of a list is a slice of it and what follows. -/
theorem drop_eq_slice (data : List UInt8) (start count : Nat) :
    data.drop start = slice data start count ++ data.drop (start + count) := by
  rw [slice, ← List.drop_drop, List.take_append_drop]

theorem drop_eq_byte {data : List UInt8} {i : Nat} (h : i < data.length) :
    data.drop i = data.getD i 0 :: data.drop (i + 1) := by
  rw [List.drop_eq_getElem_cons h, List.getD_eq_getElem _ _ h]

theorem high_nibble (n : Nat) : n >>> 4 = n / 16 := Nat.shiftRight_eq_div_pow n 4

theorem low_nibble (n : Nat) : n &&& 15 = n % 16 := Nat.and_two_pow_sub_one_eq_mod n 4

/-- The header of the packet is an IPv4 header. -/
def HasIpv4Header (raw : List UInt8) : Prop :=
  20 ≤ raw.length ∧ byteAt raw 0 / 16 = 4 ∧ 20 ≤ byteAt raw 0 % 16 * 4 ∧
    byteAt raw 0 % 16 * 4 ≤ raw.length

theorem ipv4Key_of {raw : List UInt8} (h : HasIpv4Header raw) :
    ipv4Key raw = .ok (some (String.ofList (ipv4Chars (bigEndian (slice raw 12 4))),
      String.ofList (ipv4Chars (bigEndian (slice raw 16 4))), protocolName (byteAt raw 9))) := by
  obtain ⟨hlong, hversion, hheader, hfits⟩ := h
  rw [ipv4Key, if_neg (by omega), viewIndex_of_lt (by omega), ok_bind, high_nibble,
    if_neg (not_not.mpr hversion), low_nibble]
  dsimp only
  rw [if_neg (by omega), ipv4Text, length_slice (by omega), raiseIf_of_not (by simp), ok_bind,
    pure_eq_ok, ok_bind, ipv4Text, length_slice (by omega), raiseIf_of_not (by simp), ok_bind,
    pure_eq_ok, ok_bind, viewIndex_of_lt (by omega), ok_bind, pure_eq_ok]

theorem ipv4Key_of_not {raw : List UInt8} (h : ¬ HasIpv4Header raw) :
    ipv4Key raw = .ok none := by
  rw [ipv4Key]
  by_cases hshort : raw.length < 20
  · rw [if_pos hshort, pure_eq_ok]
  rw [if_neg hshort, viewIndex_of_lt (by omega), ok_bind, high_nibble, low_nibble]
  by_cases hversion : byteAt raw 0 / 16 ≠ 4
  · rw [if_pos hversion, pure_eq_ok]
  rw [if_neg hversion]
  dsimp only
  rw [if_pos, pure_eq_ok]
  by_contra hnot
  exact h ⟨by omega, not_not.mp hversion, by omega, by omega⟩

theorem ipv4Key_of_at (p : Ipv4Packet) {raw : List UInt8} (h : At raw 0 p.bytes []) :
    ipv4Key raw = .ok (some p.key) := by
  have hlength := h.length
  have hservice := p.service_length
  have hchecksum := p.checksum_length
  have hsource := p.source_length
  have hdestination := p.destination_length
  have hoptions := p.options_length
  rw [Ipv4Packet.bytes] at h hlength
  simp only [List.length_cons, List.length_append, List.length_nil, hservice, hchecksum, hsource,
    hdestination] at hlength
  have hfirst : byteAt raw 0 = 0x40 + (5 + p.options.length / 4) := by
    rw [byteAt_of_at h, UInt8.toNat_ofNat']
    omega
  have hprotocol := h.tail.next
  rw [hservice] at hprotocol
  have haddresses := hprotocol.tail.next
  rw [hchecksum] at haddresses
  have hto := haddresses.next
  rw [hsource] at hto
  rw [ipv4Key_of ⟨by omega, by omega, by omega, by omega⟩, slice_of_at haddresses.first hsource,
    slice_of_at hto.first hdestination, byteAt_of_at hprotocol, Ipv4Packet.key]

/-- **A packet with an IPv4 header is an IPv4 packet.** -/
theorem ipv4Key_iff (raw : List UInt8) (key : Key) :
    ipv4Key raw = .ok (some key) ↔ ∃ p : Ipv4Packet, p.bytes = raw ∧ p.key = key := by
  constructor
  · intro hkey
    by_cases h : HasIpv4Header raw
    · rw [ipv4Key_of h] at hkey
      obtain ⟨hlong, hversion, hheader, hfits⟩ := h
      refine ⟨⟨slice raw 1 8, raw.getD 9 0, slice raw 10 2, slice raw 12 4, slice raw 16 4,
        slice raw 20 (byteAt raw 0 % 16 * 4 - 20), raw.drop (20 + (byteAt raw 0 % 16 * 4 - 20)),
        length_slice (by omega), length_slice (by omega), length_slice (by omega),
        length_slice (by omega), ?_⟩, ?_, Option.some.inj (Except.ok.inj hkey)⟩
      · rw [length_slice (by omega)]
        omega
      · have hfirst : UInt8.ofNat (0x40 + (5 + (byteAt raw 0 % 16 * 4 - 20) / 4)) =
            raw.getD 0 0 := by
          rw [← UInt8.toNat_inj, UInt8.toNat_ofNat']
          have hbyte : (raw.getD 0 0).toNat = byteAt raw 0 := rfl
          rw [hbyte]
          omega
        have hdecompose : raw = raw.getD 0 0 :: (slice raw 1 8 ++ (raw.getD 9 0 ::
            (slice raw 10 2 ++ (slice raw 12 4 ++ (slice raw 16 4 ++
              (slice raw 20 (byteAt raw 0 % 16 * 4 - 20) ++
                raw.drop (20 + (byteAt raw 0 % 16 * 4 - 20)))))))) := by
          rw [← drop_eq_slice raw 20, ← drop_eq_slice raw 16 4, ← drop_eq_slice raw 12 4,
            ← drop_eq_slice raw 10 2, ← drop_eq_byte (by omega), ← drop_eq_slice raw 1 8,
            ← drop_eq_byte (by omega), List.drop_zero]
        rw [Ipv4Packet.bytes]
        dsimp only
        rw [length_slice (by omega), hfirst]
        exact hdecompose.symm
    · rw [ipv4Key_of_not h] at hkey
      cases hkey
  · rintro ⟨p, rfl, rfl⟩
    exact ipv4Key_of_at p ⟨[], rfl, (List.append_nil _).symm⟩

/-- The header of the packet is an IPv6 header. -/
def HasIpv6Header (raw : List UInt8) : Prop := 40 ≤ raw.length ∧ byteAt raw 0 / 16 = 6

theorem ipv6Key_of {raw : List UInt8} (h : HasIpv6Header raw) :
    ipv6Key raw = .ok (some (String.ofList (ipv6Chars (bigEndian (slice raw 8 16))),
      String.ofList (ipv6Chars (bigEndian (slice raw 24 16))), protocolName (byteAt raw 6))) := by
  obtain ⟨hlong, hversion⟩ := h
  rw [ipv6Key, if_neg (by omega), viewIndex_of_lt (by omega), ok_bind, high_nibble,
    if_neg (not_not.mpr hversion), ipv6Text, length_slice (by omega), raiseIf_of_not (by simp),
    ok_bind, pure_eq_ok, ok_bind, ipv6Text, length_slice (by omega), raiseIf_of_not (by simp),
    ok_bind, pure_eq_ok, ok_bind, viewIndex_of_lt (by omega), ok_bind, pure_eq_ok]

theorem ipv6Key_of_not {raw : List UInt8} (h : ¬ HasIpv6Header raw) :
    ipv6Key raw = .ok none := by
  rw [ipv6Key]
  by_cases hshort : raw.length < 40
  · rw [if_pos hshort, pure_eq_ok]
  rw [if_neg hshort, viewIndex_of_lt (by omega), ok_bind, high_nibble, if_pos, pure_eq_ok]
  intro hversion
  exact h ⟨by omega, hversion⟩

theorem ipv6Key_of_at (p : Ipv6Packet) {raw : List UInt8} (h : At raw 0 p.bytes []) :
    ipv6Key raw = .ok (some p.key) := by
  have hlength := h.length
  have hclass := p.trafficClass_lt
  have hflow := p.flow_length
  have hsource := p.source_length
  have hdestination := p.destination_length
  rw [Ipv6Packet.bytes] at h hlength
  simp only [List.length_cons, List.length_append, List.length_nil, hflow, hsource,
    hdestination] at hlength
  have hfirst : byteAt raw 0 = 0x60 + p.trafficClass := by
    rw [byteAt_of_at h, UInt8.toNat_ofNat']
    omega
  have hnext := h.tail.next
  rw [hflow] at hnext
  have haddresses := hnext.tail.tail
  have hto := haddresses.next
  rw [hsource] at hto
  rw [ipv6Key_of ⟨by omega, by omega⟩, slice_of_at haddresses.first hsource,
    slice_of_at hto.first hdestination, byteAt_of_at hnext, Ipv6Packet.key]

/-- **A packet with an IPv6 header is an IPv6 packet.** -/
theorem ipv6Key_iff (raw : List UInt8) (key : Key) :
    ipv6Key raw = .ok (some key) ↔ ∃ p : Ipv6Packet, p.bytes = raw ∧ p.key = key := by
  constructor
  · intro hkey
    by_cases h : HasIpv6Header raw
    · rw [ipv6Key_of h] at hkey
      obtain ⟨hlong, hversion⟩ := h
      refine ⟨⟨byteAt raw 0 % 16, slice raw 1 5, raw.getD 6 0, raw.getD 7 0, slice raw 8 16,
        slice raw 24 16, raw.drop 40, Nat.mod_lt _ (by omega), length_slice (by omega),
        length_slice (by omega), length_slice (by omega)⟩, ?_,
        Option.some.inj (Except.ok.inj hkey)⟩
      have hfirst : UInt8.ofNat (0x60 + byteAt raw 0 % 16) = raw.getD 0 0 := by
        rw [← UInt8.toNat_inj, UInt8.toNat_ofNat']
        have hbyte : (raw.getD 0 0).toNat = byteAt raw 0 := rfl
        rw [hbyte]
        omega
      have hdecompose : raw = raw.getD 0 0 :: (slice raw 1 5 ++ (raw.getD 6 0 ::
          raw.getD 7 0 :: (slice raw 8 16 ++ (slice raw 24 16 ++ raw.drop 40)))) := by
        rw [← drop_eq_slice raw 24 16, ← drop_eq_slice raw 8 16, ← drop_eq_byte (by omega),
          ← drop_eq_byte (by omega), ← drop_eq_slice raw 1 5, ← drop_eq_byte (by omega),
          List.drop_zero]
      rw [Ipv6Packet.bytes]
      dsimp only
      rw [hfirst]
      exact hdecompose.symm
    · rw [ipv6Key_of_not h] at hkey
      cases hkey
  · rintro ⟨p, rfl, rfl⟩
    exact ipv6Key_of_at p ⟨[], rfl, (List.append_nil _).symm⟩

/-- The conversations are read without an error. -/
theorem ipv4Key_returns (raw : List UInt8) : ∃ key, ipv4Key raw = .ok key := by
  by_cases h : HasIpv4Header raw
  · exact ⟨_, ipv4Key_of h⟩
  · exact ⟨_, ipv4Key_of_not h⟩

theorem ipv6Key_returns (raw : List UInt8) : ∃ key, ipv6Key raw = .ok key := by
  by_cases h : HasIpv6Header raw
  · exact ⟨_, ipv6Key_of h⟩
  · exact ⟨_, ipv6Key_of_not h⟩

/-! ## Links -/

/-- Bytes are the bytes of the number they are read as. -/
theorem beBytes_bigEndian {data : List UInt8} {w : Nat} (h : data.length = w) :
    beBytes w (bigEndian data) = data := by
  rw [beBytes, bigEndian_eq_ofDigits, ← h, ← data.length_reverse, leBytes_ofDigits,
    List.reverse_reverse]

theorem Tag.length_bytes (g : Tag) : g.bytes.length = 4 := by
  rw [Tag.bytes, List.length_append, length_beBytes, g.control_length]

theorem Packet.etherType_not_tag (p : Packet) :
    p.etherType ≠ 0x8100 ∧ p.etherType ≠ 0x88A8 := by
  cases p with
  | ipv4 p => simp [etherType]
  | ipv6 p => simp [etherType]

theorem Packet.etherType_lt (p : Packet) : p.etherType < 256 ^ 2 := by
  cases p with
  | ipv4 p => simp [etherType]
  | ipv6 p => simp [etherType]

/-- **The tags are read**, by induction on the turns: what is found behind them is the ethertype,
and the bytes in front of it are tags. -/
theorem skipTags_ok (frame : List UInt8) (n : Nat) {pos : Nat} (hpos : pos + 2 ≤ frame.length) :
    ∃ (tags : List Tag) (stop : Nat), tags.length ≤ n ∧ stop + 2 ≤ frame.length ∧
      skipTags frame n (bigEndian (slice frame pos 2)) (pos + 2) =
        .ok (bigEndian (slice frame stop 2), stop + 2) ∧
      frame.drop pos = tags.flatMap Tag.bytes ++
        (beBytes 2 (bigEndian (slice frame stop 2)) ++ frame.drop (stop + 2)) := by
  have hread : ∀ {pos}, pos + 2 ≤ frame.length → frame.drop pos =
      beBytes 2 (bigEndian (slice frame pos 2)) ++ frame.drop (pos + 2) := by
    intro pos hpos
    rw [beBytes_bigEndian (length_slice hpos), ← drop_eq_slice]
  induction n generalizing pos with
  | zero => exact ⟨[], pos, le_rfl, hpos, rfl, hread hpos⟩
  | succ n ih =>
    by_cases hend : (bigEndian (slice frame pos 2) ≠ 0x8100 ∧
        bigEndian (slice frame pos 2) ≠ 0x88A8) ∨ frame.length < pos + 2 + 4
    · exact ⟨[], pos, Nat.zero_le _, hpos, if_pos hend, hread hpos⟩
    · obtain ⟨tags, stop, hcount, hstop, hskip, hdrop⟩ := @ih (pos + 4) (by omega)
      have htpid : bigEndian (slice frame pos 2) = 0x8100 ∨
          bigEndian (slice frame pos 2) = 0x88A8 := by omega
      refine ⟨⟨_, slice frame (pos + 2) 2, htpid, length_slice (by omega)⟩ :: tags, stop,
        Nat.succ_le_succ hcount, hstop, ?_, ?_⟩
      · rw [skipTags, if_neg hend, unpackFrom_of_le (by omega), ok_bind]
        exact hskip
      · rw [List.flatMap_cons, Tag.bytes, List.append_assoc, List.append_assoc, ← hdrop,
          ← drop_eq_slice frame (pos + 2) 2]
        exact hread hpos

/-- **Tags in front of a packet are skipped**, by induction on them. -/
theorem skipTags_of_at (p : Packet) {frame rest : List UInt8} {tags : List Tag} {n pos : Nat}
    (h : At frame pos (tags.flatMap Tag.bytes ++ (beBytes 2 p.etherType ++ rest)) [])
    (hcount : tags.length ≤ n) :
    ∃ stop, At frame stop rest [] ∧
      skipTags frame n (bigEndian (slice frame pos 2)) (pos + 2) = .ok (p.etherType, stop) := by
  induction tags generalizing n pos with
  | nil =>
    rw [List.flatMap_nil, List.nil_append] at h
    have hnext := h.next
    rw [length_beBytes] at hnext
    refine ⟨pos + 2, hnext, ?_⟩
    rw [number_of_at h.first p.etherType_lt]
    cases n with
    | zero => rfl
    | succ n => exact if_pos (.inl p.etherType_not_tag)
  | cons g tags ih =>
    rw [List.length_cons] at hcount
    obtain ⟨n, rfl⟩ : ∃ m, n = m + 1 := ⟨n - 1, by omega⟩
    rw [List.flatMap_cons, List.append_assoc] at h
    have hnext := h.next
    rw [Tag.length_bytes] at hnext
    obtain ⟨stop, hstop, hskip⟩ := ih hnext (Nat.le_of_succ_le_succ hcount)
    refine ⟨stop, hstop, ?_⟩
    have hlength := hnext.length
    simp only [List.length_append, length_beBytes] at hlength
    have htpid : bigEndian (slice frame pos 2) = g.tpid := by
      rw [Tag.bytes, List.append_assoc] at h
      apply number_of_at h.first
      rcases g.tpid_mem with htpid | htpid
      · rw [htpid]
        decide
      · rw [htpid]
        decide
    have htag := g.tpid_mem
    rw [skipTags, htpid, if_neg (by omega), unpackFrom_of_le (by omega), ok_bind]
    exact hskip

/-- The family of an ethertype is that of its packets. -/
theorem familyOf_eq_four {n : Nat} : familyOf n = some 4 ↔ n = 0x0800 := by
  rw [familyOf]
  split_ifs with h4 h6
  · exact iff_of_true rfl h4
  · exact iff_of_false (by decide) h4
  · exact iff_of_false (by decide) h4

theorem familyOf_eq_six {n : Nat} : familyOf n = some 6 ↔ n = 0x86DD := by
  rw [familyOf]
  split_ifs with h4 h6
  · exact iff_of_false (by decide) (by omega)
  · exact iff_of_true rfl h6
  · exact iff_of_false (by decide) h6

/-- The conversation of a packet of a family. -/
def familyKey (family : Option Nat) (raw : List UInt8) : Py (Option Key) :=
  if family = some 4 then ipv4Key raw
  else if family = some 6 then ipv6Key raw
  else return none

theorem familyKey_returns (family : Option Nat) (raw : List UInt8) :
    ∃ key, familyKey family raw = .ok key := by
  rw [familyKey]
  split_ifs
  · exact ipv4Key_returns raw
  · exact ipv6Key_returns raw
  · exact ⟨none, rfl⟩

/-- **The conversation of a family is that of its packets.** -/
theorem familyKey_iff (family : Option Nat) (raw : List UInt8) (key : Key) :
    familyKey family raw = .ok (some key) ↔
      (family = some 4 ∧ ∃ p : Ipv4Packet, p.bytes = raw ∧ p.key = key) ∨
        (family = some 6 ∧ ∃ p : Ipv6Packet, p.bytes = raw ∧ p.key = key) := by
  rw [familyKey]
  split_ifs with h4 h6
  · rw [ipv4Key_iff, h4]
    simp
  · rw [ipv6Key_iff, h6]
    simp
  · simp [h4, h6]

theorem decodeFrame_of {network : Nat} {frame raw : List UInt8} {family : Option Nat}
    (h : linkPayload network frame = .ok (some (family, raw))) :
    decodeFrame network frame = familyKey family raw := by
  rw [decodeFrame, h]
  rfl

theorem decodeFrame_of_none {network : Nat} {frame : List UInt8}
    (h : linkPayload network frame = .ok none) : decodeFrame network frame = .ok none := by
  rw [decodeFrame, h]
  rfl

theorem linkPayload_ethernet {frame : List UInt8} {ethertype stop : Nat}
    (hlong : 14 ≤ frame.length)
    (hskip : skipTags frame 2 (bigEndian (slice frame 12 2)) 14 = .ok (ethertype, stop)) :
    linkPayload 1 frame = .ok (some (familyOf ethertype, frame.drop stop)) := by
  rw [linkPayload, if_pos rfl, if_neg (Nat.not_lt.mpr hlong), unpackFrom_of_le hlong, ok_bind,
    hskip, ok_bind]
  rfl

theorem linkPayload_short {frame : List UInt8} (hshort : frame.length < 14) :
    linkPayload 1 frame = .ok none := by
  rw [linkPayload, if_pos rfl, if_pos hshort, pure_eq_ok]

theorem linkPayload_raw {frame : List UInt8} (hne : frame ≠ []) :
    linkPayload 101 frame = .ok (some (some (byteAt frame 0 / 16), frame)) := by
  rw [linkPayload, if_neg (by decide), if_pos (by decide), if_neg (by decide),
    if_neg (by decide), if_neg hne, viewIndex_of_lt (List.length_pos_iff.mpr hne), ok_bind,
    high_nibble, pure_eq_ok]

theorem linkPayload_ipv4 (frame : List UInt8) :
    linkPayload 228 frame = .ok (some (some 4, frame)) := rfl

theorem linkPayload_ipv6 (frame : List UInt8) :
    linkPayload 229 frame = .ok (some (some 6, frame)) := rfl

theorem linkPayload_other {network : Nat} (h : network ∉ [1, 101, 228, 229])
    (frame : List UInt8) : linkPayload network frame = .ok (some (none, frame)) := by
  rw [List.mem_cons, not_or] at h
  rw [linkPayload, if_neg h.1, if_neg h.2, pure_eq_ok]

/-- The link of every frame is read without an error. -/
theorem linkPayload_returns (network : Nat) (frame : List UInt8) :
    ∃ link, linkPayload network frame = .ok link := by
  by_cases hknown : network ∈ [1, 101, 228, 229]
  · fin_cases hknown
    · by_cases hshort : frame.length < 14
      · exact ⟨_, linkPayload_short hshort⟩
      · obtain ⟨tags, stop, -, -, hskip, -⟩ := @skipTags_ok frame 2 12 (by omega)
        exact ⟨_, linkPayload_ethernet (Nat.le_of_not_lt hshort) hskip⟩
    · by_cases hne : frame = []
      · subst hne
        exact ⟨_, rfl⟩
      · exact ⟨_, linkPayload_raw hne⟩
    · exact ⟨_, linkPayload_ipv4 frame⟩
    · exact ⟨_, linkPayload_ipv6 frame⟩
  · exact ⟨_, linkPayload_other hknown frame⟩

/-- **Every frame is decoded without an error.** -/
theorem decodeFrame_returns (network : Nat) (frame : List UInt8) :
    ∃ key, decodeFrame network frame = .ok key := by
  obtain ⟨link, hlink⟩ := linkPayload_returns network frame
  cases link with
  | none => exact ⟨none, decodeFrame_of_none hlink⟩
  | some link =>
    rw [decodeFrame_of hlink]
    exact familyKey_returns _ _

/-- The conversation of a raw packet, whose version decides on its family. -/
theorem rawKey_iff (frame : List UInt8) (key : Key) :
    familyKey (some (byteAt frame 0 / 16)) frame = .ok (some key) ↔
      ∃ p : Packet, p.bytes = frame ∧ p.key = key := by
  rw [familyKey_iff]
  constructor
  · rintro (⟨-, p, hp⟩ | ⟨-, p, hp⟩)
    · exact ⟨.ipv4 p, hp⟩
    · exact ⟨.ipv6 p, hp⟩
  · rintro ⟨p | p, hbytes, hkey⟩
    · have hread := (ipv4Key_iff frame key).mpr ⟨p, hbytes, hkey⟩
      by_cases h : HasIpv4Header frame
      · exact .inl ⟨congrArg some h.2.1, p, hbytes, hkey⟩
      · rw [ipv4Key_of_not h] at hread
        cases hread
    · have hread := (ipv6Key_iff frame key).mpr ⟨p, hbytes, hkey⟩
      by_cases h : HasIpv6Header frame
      · exact .inr ⟨congrArg some h.2, p, hbytes, hkey⟩
      · rw [ipv6Key_of_not h] at hread
        cases hread

/-- **An Ethernet frame is decoded when it carries a packet.** -/
theorem decodeFrame_ethernet_iff (frame : List UInt8) (key : Key) :
    decodeFrame 1 frame = .ok (some key) ↔ ∃ p, Carries 1 frame p ∧ p.key = key := by
  constructor
  · intro hkey
    by_cases hshort : frame.length < 14
    · rw [decodeFrame_of_none (linkPayload_short hshort)] at hkey
      cases hkey
    obtain ⟨tags, stop, htags, hstop, hskip, hdrop⟩ := @skipTags_ok frame 2 12 (by omega)
    rw [decodeFrame_of (linkPayload_ethernet (Nat.le_of_not_lt hshort) hskip)] at hkey
    -- the bytes in front of the packet are addresses, tags and an ethertype
    have hframe : frame = slice frame 0 12 ++ (tags.flatMap Tag.bytes ++
        (beBytes 2 (bigEndian (slice frame stop 2)) ++ frame.drop (stop + 2))) := by
      rw [← hdrop, ← drop_eq_slice frame 0 12, List.drop_zero]
    have haddresses : (slice frame 0 12).length = 12 := length_slice (by omega)
    rcases (familyKey_iff _ _ _).mp hkey with ⟨hfamily, p, hbytes, hp⟩ | ⟨hfamily, p, hbytes, hp⟩
    · refine ⟨.ipv4 p, ?_, hp⟩
      rw [familyOf_eq_four.mp hfamily, ← hbytes] at hframe
      rw [hframe]
      exact .ethernet (.ipv4 p) haddresses htags
    · refine ⟨.ipv6 p, ?_, hp⟩
      rw [familyOf_eq_six.mp hfamily, ← hbytes] at hframe
      rw [hframe]
      exact .ethernet (.ipv6 p) haddresses htags
  · rintro ⟨p, hcarries, rfl⟩
    generalize hnetwork : 1 = network at hcarries
    cases hcarries with
    | @ethernet addresses tags p haddresses htags =>
      have h := at_append addresses
        (tags.flatMap Tag.bytes ++ (beBytes 2 p.etherType ++ p.bytes)) []
      rw [haddresses, List.append_nil] at h
      obtain ⟨stop, hstop, hskip⟩ := skipTags_of_at p h htags
      have hdrop := hstop.drop
      rw [List.append_nil] at hdrop
      have hlong : 14 ≤ (addresses ++ (tags.flatMap Tag.bytes ++
          (beBytes 2 p.etherType ++ p.bytes))).length := by
        simp only [List.length_append, length_beBytes]
        omega
      rw [decodeFrame_of (linkPayload_ethernet hlong hskip), hdrop, familyKey_iff]
      cases p with
      | ipv4 p => exact .inl ⟨rfl, p, rfl, rfl⟩
      | ipv6 p => exact .inr ⟨rfl, p, rfl, rfl⟩
    | raw p => cases hnetwork
    | ipv4 p => cases hnetwork
    | ipv6 p => cases hnetwork

/-- **A frame is decoded when it carries a packet**, to the conversation of the packet. -/
theorem decodeFrame_iff (network : Nat) (frame : List UInt8) (key : Key) :
    decodeFrame network frame = .ok (some key) ↔ ∃ p, Carries network frame p ∧ p.key = key := by
  by_cases hknown : network ∈ [1, 101, 228, 229]
  · fin_cases hknown
    · exact decodeFrame_ethernet_iff frame key
    · by_cases hne : frame = []
      · subst hne
        refine iff_of_false (fun h => by cases h) ?_
        rintro ⟨p, hcarries, -⟩
        generalize hframe : ([] : List UInt8) = frame at hcarries
        cases hcarries with
        | raw p =>
          cases p with
          | ipv4 p => cases hframe
          | ipv6 p => cases hframe
      · rw [decodeFrame_of (linkPayload_raw hne), rawKey_iff]
        constructor
        · rintro ⟨p, rfl, hp⟩
          exact ⟨p, .raw p, hp⟩
        · rintro ⟨p, hcarries, hp⟩
          cases hcarries with
          | raw p => exact ⟨p, rfl, hp⟩
    · rw [decodeFrame_of (linkPayload_ipv4 frame)]
      refine (ipv4Key_iff frame key).trans ⟨?_, ?_⟩
      · rintro ⟨p, rfl, hp⟩
        exact ⟨_, .ipv4 p, hp⟩
      · rintro ⟨p, hcarries, hp⟩
        cases hcarries with
        | ipv4 p => exact ⟨p, rfl, hp⟩
    · rw [decodeFrame_of (linkPayload_ipv6 frame)]
      refine (ipv6Key_iff frame key).trans ⟨?_, ?_⟩
      · rintro ⟨p, rfl, hp⟩
        exact ⟨_, .ipv6 p, hp⟩
      · rintro ⟨p, hcarries, hp⟩
        cases hcarries with
        | ipv6 p => exact ⟨p, rfl, hp⟩
  · rw [decodeFrame_of (linkPayload_other hknown frame)]
    refine iff_of_false (fun h => by cases h) ?_
    rintro ⟨p, hcarries, -⟩
    cases hcarries with
    | ethernet p haddresses htags => exact hknown (by decide)
    | raw p => exact hknown (by decide)
    | ipv4 p => exact hknown (by decide)
    | ipv6 p => exact hknown (by decide)

/-! ## Capture files -/

/-- The bytes of a number in a byte order. -/
def Endian.bytes : Endian → Nat → Nat → List UInt8
  | .little, w, n => leBytes w n
  | .big, w, n => beBytes w n

theorem Endian.length_bytes (endian : Endian) (w n : Nat) : (endian.bytes w n).length = w := by
  cases endian with
  | little => exact length_leBytes w n
  | big => exact length_beBytes w n

/-- **A number is read back in its byte order.** -/
theorem Endian.number_bytes (endian : Endian) {w n : Nat} (h : n < 256 ^ w) :
    endian.number (endian.bytes w n) = n := by
  cases endian with
  | little => exact bigEndian_beBytes h
  | big => exact bigEndian_beBytes h

/-- A record of a capture file: the time stamp, the length of the packet, and the captured part of
it. -/
structure Record where
  seconds : Nat
  fraction : Nat
  original : Nat
  frame : List UInt8
  original_lt : original < 256 ^ 4
  frame_le : frame.length ≤ original

/-- A capture file in a byte order, with time stamps in microseconds or nanoseconds. -/
structure Capture where
  endian : Endian
  nanoseconds : Bool
  thiszone : Nat
  sigfigs : Nat
  snaplen : Nat
  network : Nat
  records : List Record
  snaplen_pos : 1 ≤ snaplen
  snaplen_lt : snaplen < 256 ^ 4
  network_mem : network ∈ [1, 101, 228, 229]
  frames_le : ∀ r ∈ records, r.frame.length ≤ snaplen

def Record.header (endian : Endian) (r : Record) : List UInt8 :=
  endian.bytes 4 r.seconds ++ (endian.bytes 4 r.fraction ++ (endian.bytes 4 r.frame.length ++
    endian.bytes 4 r.original))

def Record.bytes (endian : Endian) (r : Record) : List UInt8 := r.header endian ++ r.frame

theorem Record.length_header (endian : Endian) (r : Record) : (r.header endian).length = 16 := by
  simp only [Record.header, List.length_append, Endian.length_bytes]

theorem Record.length_bytes (endian : Endian) (r : Record) :
    (r.bytes endian).length = 16 + r.frame.length := by
  rw [Record.bytes, List.length_append, length_header]

/-- The two lengths of a record are read back from its header. -/
theorem Record.lengths_of_at (endian : Endian) (r : Record) {data : List UInt8}
    (h : At data 0 (r.header endian) []) :
    endian.number (slice data 8 4) = r.frame.length ∧
      endian.number (slice data 12 4) = r.original := by
  have horiginal := r.original_lt
  have hframe := r.frame_le
  rw [Record.header] at h
  have hincluded := h.next.next
  simp only [Endian.length_bytes] at hincluded
  have hlast := hincluded.next
  rw [Endian.length_bytes] at hlast
  rw [slice_of_at hincluded.first (Endian.length_bytes _ _ _),
    slice_of_at hlast (Endian.length_bytes _ _ _),
    Endian.number_bytes _ (hframe.trans_lt horiginal), Endian.number_bytes _ horiginal]
  exact ⟨rfl, rfl⟩

namespace Capture

def magic (c : Capture) : List UInt8 :=
  c.endian.bytes 4 (if c.nanoseconds then 0xa1b23c4d else 0xa1b2c3d4)

/-- The file header behind the magic number. -/
def header (c : Capture) : List UInt8 :=
  c.endian.bytes 2 2 ++ (c.endian.bytes 2 4 ++ (c.endian.bytes 4 c.thiszone ++
    (c.endian.bytes 4 c.sigfigs ++ (c.endian.bytes 4 c.snaplen ++ c.endian.bytes 4 c.network))))

/-- The bytes of the file. -/
def bytes (c : Capture) : List UInt8 :=
  c.magic ++ (c.header ++ c.records.flatMap (Record.bytes c.endian))

def frames (c : Capture) : List (List UInt8) := c.records.map (·.frame)

/-- The configured limits. -/
structure WithinLimits (c : Capture) : Prop where
  size : c.bytes.length ≤ maxPcapBytes
  count : c.records.length ≤ maxPackets
  frames : ∀ r ∈ c.records, r.frame.length ≤ maxCapturedPacket

end Capture

/-! ## Counting -/

open Classical in
/-- How many frames carry a packet of the conversation. -/
noncomputable def packetsOf (network : Nat) (frames : List (List UInt8)) (key : Key) : Nat :=
  frames.countP fun frame => decide (∃ p, Carries network frame p ∧ p.key = key)

/-- What the loop has counted of the frames it has read. -/
structure Counted (network : Nat) (done : List (List UInt8)) (scan : Scan) : Prop where
  packets : scan.packets = done.length
  counts : ∀ key, usage scan.counts key = packetsOf network done key
  distinct : (keys scan.counts).Nodup
  positive : ∀ key ∈ keys scan.counts, 0 < usage scan.counts key
  decoded : total scan.counts = scan.decoded
  decoded_le : scan.decoded ≤ scan.packets

theorem counted_start (network : Nat) : Counted network [] ⟨[], 0, 0⟩ := by
  refine ⟨rfl, fun _ => rfl, List.nodup_nil, ?_, rfl, le_rfl⟩
  intro key hkey
  exact absurd hkey List.not_mem_nil

/-- **One turn of the loop**: a record within the limits is read, any other raises. -/
theorem readRecords_cons {endian : Endian} {snaplen network : Nat} {data : List UInt8}
    {r : Record} {records : List Record} {offset : Nat} (scan : Scan)
    (h : At data offset ((r :: records).flatMap (Record.bytes endian)) [])
    (hsnaplen : r.frame.length ≤ snaplen) {key : Option Key}
    (hkey : decodeFrame network r.frame = .ok key) :
    At data (offset + 16 + r.frame.length) (records.flatMap (Record.bytes endian)) [] ∧
      readRecords endian snaplen network data offset scan = (do
        raiseIf (maxCapturedPacket < r.frame.length) (valueError "Invalid PCAP packet length.")
        raiseIf (maxPackets < scan.packets + 1) (valueError "Too many PCAP packets.")
        readRecords endian snaplen network data (offset + 16 + r.frame.length)
          ({ scan with packets := scan.packets + 1 }.count key)) := by
  have horiginal := r.frame_le
  rw [List.flatMap_cons] at h
  have hlength := h.length
  rw [List.length_append, Record.length_bytes, List.length_nil] at hlength
  have hnext := h.next
  rw [Record.length_bytes, ← Nat.add_assoc] at hnext
  rw [Record.bytes] at h
  have hframe := h.first.next
  rw [Record.length_header] at hframe
  have hheader : slice data offset 16 = r.header endian :=
    slice_of_at h.first.first (Record.length_header endian r)
  have hself : At (r.header endian) 0 (r.header endian) [] := ⟨[], rfl, (List.append_nil _).symm⟩
  obtain ⟨hincluded, hlast⟩ := r.lengths_of_at endian hself
  refine ⟨hnext, ?_⟩
  rw [readRecords, if_pos (by omega), raiseIf_of_not (by omega), ok_bind,
    unpackFrom_of_le (by omega), ok_bind, hheader]
  dsimp only
  rw [hincluded, hlast]
  by_cases hcaptured : maxCapturedPacket < r.frame.length
  · have hraise : ∀ {c : Prop} [Decidable c] (e : Exn), c → raiseIf c e = .error e :=
      fun _ h => if_pos h
    rw [hraise _ (.inl hcaptured), hraise _ hcaptured]
    rfl
  rw [raiseIf_of_not (by omega), raiseIf_of_not hcaptured, ok_bind, ok_bind,
    raiseIf_of_not (by omega), ok_bind, slice_of_at hframe rfl, hkey]
  rfl

open Classical in
/-- **One turn of the loop counts its frame.** -/
theorem Counted.turn {network : Nat} {done : List (List UInt8)} {scan : Scan}
    (h : Counted network done scan) {frame : List UInt8} {key : Option Key}
    (hkey : decodeFrame network frame = .ok key) :
    Counted network (done ++ [frame]) ({ scan with packets := scan.packets + 1 }.count key) := by
  have hpackets : scan.packets + 1 = (done ++ [frame]).length := by
    rw [List.length_append, List.length_singleton, h.packets]
  have hone : ∀ k, packetsOf network (done ++ [frame]) k =
      packetsOf network done k + if key = some k then 1 else 0 := by
    intro k
    have hcarries := decodeFrame_iff network frame k
    rw [hkey] at hcarries
    rw [packetsOf, packetsOf, List.countP_append, List.countP_singleton]
    by_cases hk : key = some k
    · rw [if_pos hk, if_pos (decide_eq_true (hcarries.mp (congrArg Except.ok hk)))]
    · have hnot : ¬ ∃ p, Carries network frame p ∧ p.key = k := fun hp =>
        hk (Except.ok.inj (hcarries.mpr hp))
      rw [if_neg hk, if_neg (by simpa using hnot)]
  cases key with
  | none =>
    refine ⟨hpackets, ?_, h.distinct, h.positive, h.decoded, h.decoded_le.trans (Nat.le_succ _)⟩
    intro k
    rw [hone k, if_neg (by simp), Nat.add_zero]
    exact h.counts k
  | some key =>
    refine ⟨hpackets, ?_, keys_assign_nodup h.distinct _ _, ?_, ?_, ?_⟩
    · intro k
      rw [hone k, Scan.count]
      dsimp only
      rw [usage, find_assign, ← h.counts k]
      by_cases hk : k = key
      · rw [if_pos hk, if_pos (congrArg some hk.symm), hk]
      · rw [if_neg hk, if_neg (fun heq => hk (Option.some.inj heq).symm), Nat.add_zero]
    · intro k hk
      rw [Scan.count] at hk ⊢
      dsimp only at hk ⊢
      rw [usage, find_assign]
      by_cases hkey : k = key
      · rw [if_pos hkey]
        exact Nat.succ_pos _
      · rw [if_neg hkey]
        exact h.positive k ((mem_keys_assign.mp hk).resolve_left hkey)
    · rw [Scan.count]
      dsimp only
      rw [total_assign_succ, h.decoded]
    · exact Nat.succ_le_succ h.decoded_le

/-- **All turns of the loop**: the records of a capture are read, by induction on them. -/
theorem readRecords_counted {endian : Endian} {snaplen network : Nat} {data : List UInt8}
    {records : List Record} {offset : Nat} {done : List (List UInt8)} {scan : Scan}
    (h : At data offset (records.flatMap (Record.bytes endian)) [])
    (hscan : Counted network done scan) (hsnaplen : ∀ r ∈ records, r.frame.length ≤ snaplen)
    (hcaptured : ∀ r ∈ records, r.frame.length ≤ maxCapturedPacket)
    (hcount : done.length + records.length ≤ maxPackets) :
    ∃ scan', readRecords endian snaplen network data offset scan = .ok scan' ∧
      Counted network (done ++ records.map (·.frame)) scan' := by
  induction records generalizing offset done scan with
  | nil =>
    have hlength := h.length
    rw [List.flatMap_nil, List.length_nil, Nat.add_zero] at hlength
    refine ⟨scan, ?_, ?_⟩
    · rw [readRecords, if_neg (by omega), pure_eq_ok]
    · rw [List.map_nil, List.append_nil]
      exact hscan
  | cons r records ih =>
    rw [List.length_cons] at hcount
    have hcapt := hcaptured r List.mem_cons_self
    have hpackets := hscan.packets
    obtain ⟨key, hkey⟩ := decodeFrame_returns network r.frame
    obtain ⟨hnext, hturn⟩ := readRecords_cons scan h (hsnaplen r List.mem_cons_self) hkey
    obtain ⟨scan', hread, hcounted⟩ := ih hnext (hscan.turn hkey)
      (fun r' hr' => hsnaplen r' (List.mem_cons_of_mem _ hr'))
      (fun r' hr' => hcaptured r' (List.mem_cons_of_mem _ hr'))
      (by rw [List.length_append, List.length_singleton]; omega)
    refine ⟨scan', ?_, ?_⟩
    · rw [hturn, raiseIf_of_not (Nat.not_lt.mpr hcapt), ok_bind, raiseIf_of_not (by omega),
        ok_bind, hread]
    · rw [List.append_assoc] at hcounted
      exact hcounted

/-- Records that are read were within the limits, by induction on them. -/
theorem readRecords_limits {endian : Endian} {snaplen network : Nat} {data : List UInt8}
    {records : List Record} {offset : Nat} {scan scan' : Scan}
    (h : At data offset (records.flatMap (Record.bytes endian)) [])
    (hsnaplen : ∀ r ∈ records, r.frame.length ≤ snaplen) (hpackets : scan.packets ≤ maxPackets)
    (hread : readRecords endian snaplen network data offset scan = .ok scan') :
    (∀ r ∈ records, r.frame.length ≤ maxCapturedPacket) ∧
      scan.packets + records.length ≤ maxPackets := by
  induction records generalizing offset scan with
  | nil => exact ⟨fun r hr => absurd hr List.not_mem_nil, hpackets⟩
  | cons r records ih =>
    obtain ⟨key, hkey⟩ := decodeFrame_returns network r.frame
    obtain ⟨hnext, hturn⟩ := readRecords_cons scan h (hsnaplen r List.mem_cons_self) hkey
    rw [hturn, raiseIf_bind_eq_ok, raiseIf_bind_eq_ok] at hread
    obtain ⟨hcaptured, hcount, hrest⟩ := hread
    have hcounted : ({ scan with packets := scan.packets + 1 }.count key).packets =
        scan.packets + 1 := by
      cases key with
      | none => rfl
      | some key => rfl
    obtain ⟨hall, hlength⟩ := ih hnext (fun r' hr' => hsnaplen r' (List.mem_cons_of_mem _ hr'))
      (by rw [hcounted]; omega) hrest
    rw [hcounted] at hlength
    refine ⟨?_, by rw [List.length_cons]; omega⟩
    intro r' hr'
    rcases List.mem_cons.mp hr' with rfl | hr'
    · exact Nat.le_of_not_lt hcaptured
    · exact hall r' hr'

/-! ## Errors -/

/-- The call returns, or raises `ValueError`. -/
def ReturnsOrValueError {α : Type} (x : Py α) : Prop :=
  (∃ a, x = .ok a) ∨ ∃ message, x = .error (valueError message)

theorem returnsOrValueError_raiseIf_bind {α : Type} {c : Prop} [Decidable c] {message : String}
    {f : Unit → Py α} (h : ¬ c → ReturnsOrValueError (f ())) :
    ReturnsOrValueError (raiseIf c (valueError message) >>= f) := by
  by_cases hc : c
  · rw [raiseIf, if_pos hc]
    exact .inr ⟨message, rfl⟩
  · rw [raiseIf_of_not hc, ok_bind]
    exact h hc

/-- **The loop stays inside the buffer**, by induction on what is left of it. -/
theorem readRecords_errors (endian : Endian) (snaplen network : Nat) (data : List UInt8)
    (offset : Nat) (scan : Scan) :
    ReturnsOrValueError (readRecords endian snaplen network data offset scan) := by
  induction hleft : data.length - offset using Nat.strong_induction_on generalizing offset scan with
  | _ left ih =>
    rw [readRecords]
    by_cases hmore : offset < data.length
    · rw [if_pos hmore]
      apply returnsOrValueError_raiseIf_bind
      intro hheader
      rw [unpackFrom_of_le (by omega), ok_bind]
      apply returnsOrValueError_raiseIf_bind
      intro _
      apply returnsOrValueError_raiseIf_bind
      intro _
      apply returnsOrValueError_raiseIf_bind
      intro _
      obtain ⟨key, hkey⟩ := decodeFrame_returns network (slice data (offset + 16)
        (endian.number (slice (slice data offset 16) 8 4)))
      rw [hkey, ok_bind]
      exact ih _ (by omega) _ _ rfl
    · rw [if_neg hmore]
      exact .inl ⟨scan, rfl⟩

/-- **Every byte string is read inside its bounds.** -/
theorem parsePcap_errors (data : List UInt8) : ReturnsOrValueError (parsePcap data) := by
  rw [parsePcap]
  apply returnsOrValueError_raiseIf_bind
  intro _
  apply returnsOrValueError_raiseIf_bind
  intro hlong
  cases hendian : endianOf (data.take 4) with
  | none => exact .inr ⟨_, rfl⟩
  | some endian =>
    rw [getOrRaise_some, ok_bind, unpackFrom_of_le (by omega), ok_bind]
    apply returnsOrValueError_raiseIf_bind
    intro _
    apply returnsOrValueError_raiseIf_bind
    intro _
    rcases readRecords_errors endian (endian.number (slice (slice data 4 20) 12 4))
      (endian.number (slice (slice data 4 20) 16 4)) data 24 ⟨[], 0, 0⟩ with
      ⟨scan, hscan⟩ | ⟨message, hmessage⟩
    · rw [hscan]
      exact .inl ⟨_, rfl⟩
    · rw [hmessage]
      exact .inr ⟨message, rfl⟩

/-! ## Evidence -/

/-- The conversation of an entry of the evidence. -/
def PacketConversation.key (c : PacketConversation) : Key := (c.source, c.destination, c.protocol)

/-- **The evidence is exact** for the frames that were read. -/
structure Exact (network : Nat) (frames : List (List UInt8)) (e : PcapEvidence) : Prop where
  packets : e.packetCount = frames.length
  conversations : ∀ c : PacketConversation,
    c ∈ e.conversations ↔ 0 < c.packets ∧ c.packets = packetsOf network frames c.key
  distinct : (e.conversations.map PacketConversation.key).Nodup
  decoded : (e.conversations.map (·.packets)).sum = e.decodedPackets
  decoded_le : e.decodedPackets ≤ e.packetCount

/-- What was counted is the evidence. -/
theorem Counted.exact {network : Nat} {frames : List (List UInt8)} {scan : Scan}
    (h : Counted network frames scan) : Exact network frames scan.evidence := by
  have hperm : (scan.counts.insertionSort countLe).Perm scan.counts :=
    List.perm_insertionSort _ _
  have hkeys : scan.evidence.conversations.map PacketConversation.key =
      (scan.counts.insertionSort countLe).map Prod.fst := by
    rw [Scan.evidence, List.map_map]
    rfl
  refine ⟨h.packets, ?_, ?_, ?_, h.decoded_le⟩
  · intro c
    have hentry : c ∈ scan.evidence.conversations ↔ (c.key, c.packets) ∈ scan.counts := by
      rw [Scan.evidence, List.mem_map]
      constructor
      · rintro ⟨entry, hentry, rfl⟩
        exact hperm.mem_iff.mp hentry
      · intro hc
        exact ⟨_, hperm.mem_iff.mpr hc, rfl⟩
    rw [hentry, mem_iff (d := 0) h.distinct, ← h.counts]
    constructor
    · rintro ⟨hkey, hfind⟩
      have hpos := h.positive _ hkey
      rw [usage, hfind] at hpos
      exact ⟨hpos, hfind.symm⟩
    · rintro ⟨hpos, heq⟩
      refine ⟨?_, heq.symm⟩
      by_contra hkey
      rw [heq, usage, find_eq_default hkey] at hpos
      exact absurd hpos (lt_irrefl _)
  · rw [hkeys]
    exact (hperm.map _).nodup_iff.mpr h.distinct
  · have hsum : scan.evidence.conversations.map (·.packets) =
        (scan.counts.insertionSort countLe).map Prod.snd := by
      rw [Scan.evidence, List.map_map]
      rfl
    rw [hsum]
    exact (total_perm hperm).trans h.decoded

/-- The magic number of a capture tells its byte order. -/
theorem Capture.endianOf_magic (c : Capture) : endianOf c.magic = some c.endian := by
  rw [Capture.magic]
  cases c.endian with
  | little =>
    cases c.nanoseconds with
    | false => decide
    | true => decide
  | big =>
    cases c.nanoseconds with
    | false => decide
    | true => decide

theorem Capture.length_header (c : Capture) : c.header.length = 20 := by
  simp only [Capture.header, List.length_append, Endian.length_bytes]

/-- The fields of the file header are read back from it. -/
theorem Capture.fields_of_at (c : Capture) {data : List UInt8} (h : At data 0 c.header []) :
    (c.endian.number (slice data 0 2) = 2 ∧ c.endian.number (slice data 2 2) = 4) ∧
      c.endian.number (slice data 12 4) = c.snaplen ∧
      c.endian.number (slice data 16 4) = c.network := by
  have hnetwork : c.network < 256 ^ 4 := by
    have hmem := c.network_mem
    simp only [List.mem_cons, List.not_mem_nil, or_false] at hmem
    omega
  rw [Capture.header] at h
  have hminor := h.next
  have hsnaplen := hminor.next.next.next
  have hlast := hsnaplen.next
  simp only [Endian.length_bytes] at hminor hsnaplen hlast
  rw [slice_of_at h.first (Endian.length_bytes _ _ _),
    slice_of_at hminor.first (Endian.length_bytes _ _ _),
    slice_of_at hsnaplen.first (Endian.length_bytes _ _ _),
    slice_of_at hlast (Endian.length_bytes _ _ _), Endian.number_bytes _ (by decide),
    Endian.number_bytes _ (by decide), Endian.number_bytes _ c.snaplen_lt,
    Endian.number_bytes _ hnetwork]
  exact ⟨⟨rfl, rfl⟩, rfl, rfl⟩

/-- **What the reader does with a capture**: behind the check of the size, it reads the records. -/
theorem Capture.parse_eq (c : Capture) :
    ∃ data, At data 24 (c.records.flatMap (Record.bytes c.endian)) [] ∧
      parsePcap c.bytes = do
        raiseIf (maxPcapBytes < c.bytes.length)
          (valueError "PCAP exceeds the configured size limit.")
        let scan ← readRecords c.endian c.snaplen c.network data 24 ⟨[], 0, 0⟩
        return scan.evidence := by
  obtain ⟨data, hdata⟩ : ∃ data, data = c.bytes := ⟨_, rfl⟩
  have hplace : At data 0 c.bytes [] := ⟨[], rfl, by rw [hdata]; exact (List.append_nil _).symm⟩
  rw [← hdata]
  have hlength := hplace.length
  rw [Capture.bytes] at hplace hlength
  simp only [List.length_append, c.length_header, Capture.magic, Endian.length_bytes,
    List.length_nil] at hlength
  have hmagic : data.take 4 = c.magic := by
    have hfirst := slice_of_at hplace.first (Endian.length_bytes c.endian 4 _)
    rw [slice, List.drop_zero] at hfirst
    exact hfirst
  have hheader := hplace.next
  have hfour : c.magic.length = 4 := Endian.length_bytes _ _ _
  rw [hfour] at hheader
  have hrecords := hheader.next
  rw [c.length_header] at hrecords
  have hread : slice data 4 20 = c.header := slice_of_at hheader.first c.length_header
  have hself : At c.header 0 c.header [] := ⟨[], rfl, (List.append_nil _).symm⟩
  obtain ⟨⟨hmajor, hminor⟩, hsnaplen, hnetwork⟩ := c.fields_of_at hself
  have hpos := c.snaplen_pos
  refine ⟨data, hrecords, ?_⟩
  rw [parsePcap, raiseIf_of_not (c := data.length < 24) (by omega), ok_bind, hmagic,
    c.endianOf_magic, getOrRaise_some, ok_bind, unpackFrom_of_le (by omega), ok_bind, hread]
  dsimp only
  have hvalid : ¬ (((2, 4) : Nat × Nat) ≠ (2, 4) ∨ c.snaplen < 1) := by
    rintro (hne | hlt)
    · exact hne rfl
    · omega
  rw [hmajor, hminor, hsnaplen, hnetwork, raiseIf_of_not hvalid, ok_bind,
    raiseIf_of_not (not_not.mpr c.network_mem), ok_bind]

/-- **A capture within the limits is counted exactly.** -/
theorem Capture.parse (c : Capture) (h : c.WithinLimits) :
    ∃ e, parsePcap c.bytes = .ok e ∧ Exact c.network c.frames e := by
  obtain ⟨data, hrecords, hparse⟩ := c.parse_eq
  obtain ⟨scan, hscan, hcounted⟩ := readRecords_counted hrecords (counted_start c.network)
    c.frames_le h.frames (by rw [List.length_nil, Nat.zero_add]; exact h.count)
  refine ⟨scan.evidence, ?_, hcounted.exact⟩
  rw [hparse, raiseIf_of_not (Nat.not_lt.mpr h.size), ok_bind, hscan]
  rfl

/-- Only a capture within the limits is read. -/
theorem Capture.withinLimits (c : Capture) {e : PcapEvidence} (h : parsePcap c.bytes = .ok e) :
    c.WithinLimits := by
  obtain ⟨data, hrecords, hparse⟩ := c.parse_eq
  rw [hparse, raiseIf_bind_eq_ok, bind_eq_ok] at h
  obtain ⟨hsize, scan, hscan, -⟩ := h
  obtain ⟨hframes, hcount⟩ := readRecords_limits hrecords c.frames_le (Nat.zero_le _) hscan
  rw [Nat.zero_add] at hcount
  exact ⟨Nat.le_of_not_lt hsize, hcount, hframes⟩

/-- **Reads stay inside the buffer, and captures are counted exactly.**  Every byte string is read
to evidence or to a `ValueError`; a capture is read when it is within the configured limits, and
then its evidence is exact. -/
theorem parse_pcap_law : (∀ data, ReturnsOrValueError (parsePcap data)) ∧
    ∀ c : Capture, (c.WithinLimits ↔ ∃ e, parsePcap c.bytes = .ok e) ∧
      ∀ e, parsePcap c.bytes = .ok e → Exact c.network c.frames e := by
  refine ⟨parsePcap_errors, fun c => ⟨⟨?_, ?_⟩, ?_⟩⟩
  · intro h
    obtain ⟨e, he, -⟩ := c.parse h
    exact ⟨e, he⟩
  · rintro ⟨e, he⟩
    exact c.withinLimits he
  · intro e he
    obtain ⟨e', he', hexact⟩ := c.parse (c.withinLimits he)
    rw [he] at he'
    rw [Except.ok.inj he']
    exact hexact

/-- A UDP packet between two hosts. -/
def datagram : Ipv4Packet where
  service := [0, 0, 20, 0, 0, 0, 0, 64]
  protocol := 17
  checksum := [0, 0]
  source := [10, 0, 0, 1]
  destination := [10, 0, 0, 2]
  options := []
  payload := []
  service_length := rfl
  checksum_length := rfl
  source_length := rfl
  destination_length := rfl
  options_length := by decide

/-- A capture of the packet and of a frame without one. -/
def datagramCapture : Capture where
  endian := .big
  nanoseconds := true
  thiszone := 0
  sigfigs := 0
  snaplen := 64
  network := 228
  records :=
    [⟨0, 0, 20, datagram.bytes, by decide, by decide⟩, ⟨0, 0, 1, [0], by decide, by decide⟩]
  snaplen_pos := by decide
  snaplen_lt := by decide
  network_mem := by decide
  frames_le := by decide

theorem datagram_counted : ∃ e, parsePcap datagramCapture.bytes = .ok e ∧
    Exact 228 [datagram.bytes, [0]] e := by
  have hlimits : datagramCapture.WithinLimits := ⟨by decide, by decide, by decide⟩
  obtain ⟨e, he⟩ := (parse_pcap_law.2 datagramCapture).1.mp hlimits
  exact ⟨e, he, (parse_pcap_law.2 datagramCapture).2 e he⟩

end NightRecon.RedEngine.PcapImport
