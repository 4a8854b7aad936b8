import NightRecon.Lib.Cidr
import NightRecon.Lib.Text

/-!
# IP addresses and networks, and their texts

The part of the `ipaddress` library that target parsing rests on: dotted-decimal and hextet
texts, prefix lengths and netmasks, and the address set of a network.

* `IpAddress`, `IpNetwork` — values that are in range by construction; the address set of a
  network is the aligned block `IpNetwork.block`;
* `ipAddress`, `ipNetwork` — reading a text (non-strict: host bits are masked away);
* `IpAddress.str`, `IpNetwork.str` — the canonical texts;
* `IpNetwork.contains`, `subnetOf`, `overlaps`, `addressExclude` — the network operations.

An IPv6 text may carry a zone after `%`; it takes part in equality and in the order of
network addresses, not in containment.  The round trips of the texts are in `IpaddressText`.
-/

namespace NightRecon.Lib.Ipaddress

open NightRecon.Lib.Text
open NightRecon.Lib.Cidr

/-! ## Addresses and networks -/

inductive IpVersion where
  | v4
  | v6
  deriving DecidableEq

/-- The number of bits of an address. -/
def IpVersion.bits : IpVersion → Nat
  | .v4 => 32
  | .v6 => 128

/-- An address, with the zone of a scoped IPv6 address. -/
structure IpAddress where
  version : IpVersion
  value : Nat
  zone : Option (List Char)
  value_lt : value < 2 ^ version.bits
  deriving DecidableEq

/-- A network: the top `prefixlen` bits of its addresses are `index`. -/
structure IpNetwork where
  version : IpVersion
  prefixlen : Nat
  index : Nat
  zone : Option (List Char)
  prefixlen_le : prefixlen ≤ version.bits
  index_lt : index < 2 ^ prefixlen
  deriving DecidableEq

namespace IpNetwork

/-- The number of host bits. -/
def hostBits (n : IpNetwork) : Nat := n.version.bits - n.prefixlen

/-- The address set of a network. -/
def block (n : IpNetwork) : Block := ⟨n.hostBits, n.index⟩

theorem networkAddress_lt (n : IpNetwork) : n.index * 2 ^ n.hostBits < 2 ^ n.version.bits := by
  calc n.index * 2 ^ n.hostBits < 2 ^ n.prefixlen * 2 ^ n.hostBits :=
        Nat.mul_lt_mul_of_pos_right n.index_lt (Nat.two_pow_pos _)
    _ = 2 ^ n.version.bits := by
        rw [← pow_add, hostBits, Nat.add_sub_cancel' n.prefixlen_le]

/-- The first address of a network. -/
def networkAddress (n : IpNetwork) : IpAddress :=
  ⟨n.version, n.index * 2 ^ n.hostBits, n.zone, n.networkAddress_lt⟩

theorem index_lt_of_address {v : IpVersion} {a p : Nat} (hp : p ≤ v.bits) (ha : a < 2 ^ v.bits) :
    a / 2 ^ (v.bits - p) < 2 ^ p := by
  rw [Nat.div_lt_iff_lt_mul (Nat.two_pow_pos _), ← pow_add, Nat.add_sub_cancel' hp]
  exact ha

/-- The network of an address and a prefix length.  The zone is kept only when no host bit has
to be masked away. -/
def ofAddress (a : IpAddress) (p : Nat) (hp : p ≤ a.version.bits) : IpNetwork :=
  ⟨a.version, p, a.value / 2 ^ (a.version.bits - p),
    if a.value % 2 ^ (a.version.bits - p) = 0 then a.zone else none,
    hp, index_lt_of_address hp a.value_lt⟩

end IpNetwork

/-! ## Digits in a base -/

/-- The `k` digits of `v` in base `base`, most significant first. -/
def digitsBE (base : Nat) : Nat → Nat → List Nat
  | 0, _ => []
  | k + 1, v => digitsBE base k (v / base) ++ [v % base]

/-- The number with the given digits. -/
def ofDigitsBE (base : Nat) (ds : List Nat) : Nat := ds.foldl (fun n d => n * base + d) 0

/-! ## Dotted-decimal texts -/

/-- One digit, decimal or hexadecimal. -/
def digitChar (n : Nat) : Char :=
  if n < 10 then Char.ofNat ('0'.toNat + n) else Char.ofNat ('a'.toNat + (n - 10))

/-- The decimal text of a number below 1000. -/
def decChars (n : Nat) : List Char :=
  if n < 10 then [digitChar n]
  else if n < 100 then [digitChar (n / 10), digitChar (n % 10)]
  else [digitChar (n / 100), digitChar (n / 10 % 10), digitChar (n % 10)]

/-- An octet: one to three decimal digits without leading zeros, at most 255. -/
def parseOctet (l : List Char) : Option Nat :=
  if l ≠ [] ∧ l.all isDigit ∧ l.length ≤ 3 ∧ (l = ['0'] ∨ l.head? ≠ some '0') ∧
      digitsVal l ≤ 255 then
    some (digitsVal l)
  else none

/-- The number of a dotted-decimal text. -/
def parseIpv4 (l : List Char) : Option Nat :=
  let octets := l.splitOn '.'
  if octets.length = 4 then (octets.mapM parseOctet).map (ofDigitsBE 256) else none

/-- The dotted-decimal text of a number. -/
def ipv4Chars (v : Nat) : List Char :=
  List.intercalate ['.'] ((digitsBE 256 4 v).map decChars)

/-! ## Hextet texts -/

/-- The value of a hexadecimal digit. -/
def hexVal (c : Char) : Option Nat :=
  if isDigit c then some (c.toNat - '0'.toNat)
  else if 'a' ≤ c ∧ c ≤ 'f' then some (c.toNat - 'a'.toNat + 10)
  else if 'A' ≤ c ∧ c ≤ 'F' then some (c.toNat - 'A'.toNat + 10)
  else none

/-- A hextet: one to four hexadecimal digits. -/
def parseHextet (l : List Char) : Option Nat :=
  if l ≠ [] ∧ l.length ≤ 4 then (l.mapM hexVal).map (ofDigitsBE 16) else none

/-- The hexadecimal text of a number below `2 ^ 16`, without leading zeros. -/
def hexChars (n : Nat) : List Char :=
  if n < 16 then [digitChar n]
  else if n < 256 then [digitChar (n / 16), digitChar (n % 16)]
  else if n < 4096 then [digitChar (n / 256), digitChar (n / 16 % 16), digitChar (n % 16)]
  else [digitChar (n / 4096), digitChar (n / 256 % 16), digitChar (n / 16 % 16),
    digitChar (n % 16)]

/-- The text split at its first empty part, the last part not counting: the `::`. -/
def cutSkip : List (List Char) → Option (List (List Char) × List (List Char))
  | x :: y :: rest =>
      if x = [] then some ([], y :: rest)
      else (cutSkip (y :: rest)).map fun r => (x :: r.1, r.2)
  | _ => none

/-- An IPv4 suffix rewritten as two hextets. -/
def expandSuffix (parts : List (List Char)) : Option (List (List Char)) :=
  match parts.getLast? with
  | none => some parts
  | some suffix =>
      if '.' ∈ suffix then
        (parseIpv4 suffix).map fun v =>
          parts.dropLast ++ [hexChars (v / 65536), hexChars (v % 65536)]
      else some parts

/-- The eight hextets of the parts between colons. -/
def parseHextets : List (List Char) → Option (List Nat)
  | [] => none
  | first :: rest =>
      if 9 < (first :: rest).length then none
      else match cutSkip rest with
        | none => if (first :: rest).length = 8 then (first :: rest).mapM parseHextet else none
        | some (hi, lo) => do
            -- at most one `::`, and a text may begin or end with a colon only as part of it
            if (cutSkip lo).isSome then none
            if first = [] ∧ hi ≠ [] then none
            if lo.getLast? = some [] ∧ lo.length ≠ 1 then none
            let his ← (if first = [] then [] else first :: hi).mapM parseHextet
            let los ← (if lo.getLast? = some [] then [] else lo).mapM parseHextet
            if his.length + los.length ≤ 7 then
              some (his ++ List.replicate (8 - (his.length + los.length)) 0 ++ los)
            else none

/-- The number of a hextet text. -/
def parseIpv6 (l : List Char) : Option Nat := do
  let parts := l.splitOn ':'
  if parts.length < 3 then none
  let parts ← expandSuffix parts
  let hextets ← parseHextets parts
  some (ofDigitsBE 65536 hextets)

/-- The leftmost longest run of zeros, as its start and its length.  `i` is the position reached
and `run` the length of the run of zeros that ends there. -/
def longestZeroRun (i run : Nat) (best : Nat × Nat) : List Nat → Nat × Nat
  | [] => best
  | x :: xs =>
      if x = 0 then
        longestZeroRun (i + 1) (run + 1)
          (if best.2 < run + 1 then (i - run, run + 1) else best) xs
      else longestZeroRun (i + 1) 0 best xs

/-- The parts of a hextet text, the longest run of at least two zeros left out. -/
def compressHextets (hextets : List Nat) : List (List Char) :=
  let best := longestZeroRun 0 0 (0, 0) hextets
  if 1 < best.2 then
    let hi := (hextets.take best.1).map hexChars
    let lo := (hextets.drop (best.1 + best.2)).map hexChars
    (if hi = [] then [[]] else hi) ++ [] :: (if lo = [] then [[]] else lo)
  else hextets.map hexChars

/-- The hextet text of a number. -/
def ipv6Chars (v : Nat) : List Char :=
  List.intercalate [':'] (compressHextets (digitsBE 65536 8 v))

/-! ## Address texts -/

/-- The address text and the zone of a scoped text. -/
def splitZone (l : List Char) : Option (List Char × Option (List Char)) :=
  match l.splitOn '%' with
  | [addr] => some (addr, none)
  | [addr, zone] => if zone = [] then none else some (addr, some zone)
  | _ => none

/-- An address of the given value, when it is in range. -/
def mkAddress (version : IpVersion) (value : Nat) (zone : Option (List Char)) :
    Option IpAddress :=
  if h : value < 2 ^ version.bits then some ⟨version, value, zone, h⟩ else none

def parseAddress4 (l : List Char) : Option IpAddress :=
  (parseIpv4 l).bind fun v => mkAddress .v4 v none

def parseAddress6 (l : List Char) : Option IpAddress := do
  let (addr, zone) ← splitZone l
  let v ← parseIpv6 addr
  mkAddress .v6 v zone

/-- `ipaddress.ip_address`; a text with `/` is not an address. -/
def ipAddress (s : String) : Option IpAddress :=
  let l := s.toList
  if '/' ∈ l then none
  else (parseAddress4 l).orElse fun _ => parseAddress6 l

/-- `str(address)`. -/
def IpAddress.chars (a : IpAddress) : List Char :=
  match a.version with
  | .v4 => ipv4Chars a.value
  | .v6 => ipv6Chars a.value ++ (a.zone.map fun z => '%' :: z).getD []

def IpAddress.str (a : IpAddress) : String := String.ofList a.chars

/-! ## Network texts -/

/-- A prefix length in decimal digits. -/
def parsePrefix (bits : Nat) (l : List Char) : Option Nat :=
  if l ≠ [] ∧ l.all isDigit ∧ digitsVal l ≤ bits then some (digitsVal l) else none

/-- The prefix length of an IPv4 netmask, or of a hostmask. -/
def parseNetmask (l : List Char) : Option Nat := do
  let mask ← parseIpv4 l
  let isPrefix : Nat → Nat → Bool := fun m p => m == 2 ^ 32 - 2 ^ (32 - p)
  ((List.range 33).find? (isPrefix mask)).orElse fun _ =>
    (List.range 33).find? (isPrefix (2 ^ 32 - 1 - mask))

/-- The network of an address and a prefix length, when the length is in range. -/
def mkNetwork (a : IpAddress) (p : Nat) : Option IpNetwork :=
  if h : p ≤ a.version.bits then some (IpNetwork.ofAddress a p h) else none

def parseNetwork4 (l : List Char) : Option IpNetwork :=
  match l.splitOn '/' with
  | [addr] => (parseAddress4 addr).bind fun a => mkNetwork a 32
  | [addr, mask] => do
      let a ← parseAddress4 addr
      let p ← (parsePrefix 32 mask).orElse fun _ => parseNetmask mask
      mkNetwork a p
  | _ => none

def parseNetwork6 (l : List Char) : Option IpNetwork :=
  match l.splitOn '/' with
  | [addr] => (parseAddress6 addr).bind fun a => mkNetwork a 128
  | [addr, mask] => do
      let a ← parseAddress6 addr
      let p ← parsePrefix 128 mask
      mkNetwork a p
  | _ => none

/-- `ipaddress.ip_network(value, strict=False)`. -/
def ipNetwork (s : String) : Option IpNetwork :=
  let l := s.toList
  (parseNetwork4 l).orElse fun _ => parseNetwork6 l

/-- `str(network)`. -/
def IpNetwork.str (n : IpNetwork) : String :=
  String.ofList (n.networkAddress.chars ++ '/' :: decChars n.prefixlen)

/-! ## Network operations -/

namespace IpNetwork

/-- `address in network`. -/
def contains (n : IpNetwork) (a : IpAddress) : Prop := n.version = a.version ∧ a.value ∈ n.block

instance (n : IpNetwork) (a : IpAddress) : Decidable (n.contains a) :=
  inferInstanceAs (Decidable (_ ∧ _))

/-- `a.subnet_of(b)` for networks of one version: `b` starts no later and ends no earlier.  The
starts compare with their zones, the ends carry none. -/
def subnetOf (a b : IpNetwork) : Prop :=
  (b.block.first < a.block.first ∨ (b.block.first = a.block.first ∧ b.zone = a.zone)) ∧
    a.block.last ≤ b.block.last

instance (a b : IpNetwork) : Decidable (a.subnetOf b) := inferInstanceAs (Decidable (_ ∧ _))

/-- `a.overlaps(b)`: one of the four ends lies in the other network. -/
def overlaps (a b : IpNetwork) : Prop :=
  a.version = b.version ∧ (b.block.first ∈ a.block ∨ b.block.last ∈ a.block ∨
    a.block.first ∈ b.block ∨ a.block.last ∈ b.block)

instance (a b : IpNetwork) : Decidable (a.overlaps b) := inferInstanceAs (Decidable (_ ∧ _))

/-- The lower half of a network with host bits. -/
def lower (n : IpNetwork) (h : n.prefixlen < n.version.bits) : IpNetwork :=
  ⟨n.version, n.prefixlen + 1, 2 * n.index, none, h, by have := n.index_lt; rw [pow_succ]; omega⟩

/-- The upper half of a network with host bits. -/
def upper (n : IpNetwork) (h : n.prefixlen < n.version.bits) : IpNetwork :=
  ⟨n.version, n.prefixlen + 1, 2 * n.index + 1, none, h,
    by have := n.index_lt; rw [pow_succ]; omega⟩

/-- The halving loop of `address_exclude`: descend into the half that holds `other` and give out
the other half.  `none` is the assertion failure of a half that is neither `other` nor around
it; the first argument bounds the number of halvings. -/
def excludeLoop : Nat → IpNetwork → IpNetwork → Option (List IpNetwork)
  | 0, _, _ => none
  | fuel + 1, n, other =>
      if h : n.prefixlen < n.version.bits then
        let s1 := n.lower h
        let s2 := n.upper h
        if s1 = other then some [s2]
        else if s2 = other then some [s1]
        else if other.subnetOf s1 then (excludeLoop fuel s1 other).map (s2 :: ·)
        else if other.subnetOf s2 then (excludeLoop fuel s2 other).map (s1 :: ·)
        else none
      else none

/-- `n.address_exclude(other)` for `other.subnet_of(n)`. -/
def addressExclude (n other : IpNetwork) : Option (List IpNetwork) :=
  if other = n then some [] else excludeLoop (n.version.bits + 1) n other

end IpNetwork

example : (ipAddress "2001:DB8::5:0:1").map IpAddress.str = some "2001:db8::5:0:1" := by
  decide +kernel

example : (ipNetwork "10.1.2.3/255.255.0.0").map IpNetwork.str = some "10.1.0.0/16" := by
  decide +kernel

end NightRecon.Lib.Ipaddress
