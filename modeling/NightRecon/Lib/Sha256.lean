import NightRecon.Lib.Json

/-!
# SHA-256 and HMAC-SHA-256

Words are natural numbers below `2 ^ 32`, with the reductions written out; a message is the list
of its bytes.

* `sha256 msg` — the digest, 32 bytes (`sha256_length`);
* `hexdigest` — its lower-case hexadecimal text, 64 characters of `0-9a-f`
  (`isSha256Hex_hexdigest`);
* `hmacSha256 key msg` — the keyed digest.
-/

namespace NightRecon.Lib.Sha256

/-! ## Words -/

/-- Reduction to 32 bits. -/
def w32 (n : Nat) : Nat := n % 2 ^ 32

/-- Rotation to the right. -/
def rotr (k n : Nat) : Nat := (n >>> k) ||| w32 (n <<< (32 - k))

def ch (x y z : Nat) : Nat := (x &&& y) ^^^ ((2 ^ 32 - 1 - x) &&& z)

def maj (x y z : Nat) : Nat := (x &&& y) ^^^ (x &&& z) ^^^ (y &&& z)

def bigSigma0 (x : Nat) : Nat := rotr 2 x ^^^ rotr 13 x ^^^ rotr 22 x

def bigSigma1 (x : Nat) : Nat := rotr 6 x ^^^ rotr 11 x ^^^ rotr 25 x

def smallSigma0 (x : Nat) : Nat := rotr 7 x ^^^ rotr 18 x ^^^ (x >>> 3)

def smallSigma1 (x : Nat) : Nat := rotr 17 x ^^^ rotr 19 x ^^^ (x >>> 10)

/-- The round constants. -/
def roundConstants : List Nat :=
  [0x428a2f98, 0x71374491, 0xb5c0fbcf, 0xe9b5dba5, 0x3956c25b, 0x59f111f1, 0x923f82a4, 0xab1c5ed5,
   0xd807aa98, 0x12835b01, 0x243185be, 0x550c7dc3, 0x72be5d74, 0x80deb1fe, 0x9bdc06a7, 0xc19bf174,
   0xe49b69c1, 0xefbe4786, 0x0fc19dc6, 0x240ca1cc, 0x2de92c6f, 0x4a7484aa, 0x5cb0a9dc, 0x76f988da,
   0x983e5152, 0xa831c66d, 0xb00327c8, 0xbf597fc7, 0xc6e00bf3, 0xd5a79147, 0x06ca6351, 0x14292967,
   0x27b70a85, 0x2e1b2138, 0x4d2c6dfc, 0x53380d13, 0x650a7354, 0x766a0abb, 0x81c2c92e, 0x92722c85,
   0xa2bfe8a1, 0xa81a664b, 0xc24b8b70, 0xc76c51a3, 0xd192e819, 0xd6990624, 0xf40e3585, 0x106aa070,
   0x19a4c116, 0x1e376c08, 0x2748774c, 0x34b0bcb5, 0x391c0cb3, 0x4ed8aa4a, 0x5b9cca4f, 0x682e6ff3,
   0x748f82ee, 0x78a5636f, 0x84c87814, 0x8cc70208, 0x90befffa, 0xa4506ceb, 0xbef9a3f7, 0xc67178f2]

/-- The eight chaining words. -/
structure Chain where
  a : Nat
  b : Nat
  c : Nat
  d : Nat
  e : Nat
  f : Nat
  g : Nat
  h : Nat

/-- The initial chaining value. -/
def initial : Chain :=
  ⟨0x6a09e667, 0xbb67ae85, 0x3c6ef372, 0xa54ff53a, 0x510e527f, 0x9b05688c, 0x1f83d9ab, 0x5be0cd19⟩

/-! ## Blocks -/

/-- Big-endian words of a byte list. -/
def wordsOf : List Nat → List Nat
  | a :: b :: c :: d :: rest =>
      (a <<< 24 ||| b <<< 16 ||| c <<< 8 ||| d) :: wordsOf rest
  | _ => []

/-- The message schedule, latest word first, extended by `n` words. -/
def extend : Nat → List Nat → List Nat
  | 0, ws => ws
  | n + 1, ws =>
      extend n (w32 (smallSigma1 (ws.getD 1 0) + ws.getD 6 0 + smallSigma0 (ws.getD 14 0) +
        ws.getD 15 0) :: ws)

/-- One round. -/
def round (s : Chain) (kw : Nat × Nat) : Chain :=
  let t1 := s.h + bigSigma1 s.e + ch s.e s.f s.g + kw.1 + kw.2
  let t2 := bigSigma0 s.a + maj s.a s.b s.c
  ⟨w32 (t1 + t2), s.a, s.b, s.c, w32 (s.d + t1), s.e, s.f, s.g⟩

/-- One block of sixteen words. -/
def compress (s : Chain) (block : List Nat) : Chain :=
  let schedule := (extend 48 block.reverse).reverse
  let r := (roundConstants.zip schedule).foldl round s
  ⟨w32 (s.a + r.a), w32 (s.b + r.b), w32 (s.c + r.c), w32 (s.d + r.d),
    w32 (s.e + r.e), w32 (s.f + r.f), w32 (s.g + r.g), w32 (s.h + r.h)⟩

/-- The big-endian bytes of `n`, `k` of them. -/
def bytesBE : Nat → Nat → List Nat
  | 0, _ => []
  | k + 1, n => bytesBE k (n / 256) ++ [n % 256]

/-- The message with its padding: a one bit, zeros, and the bit length in eight bytes. -/
def pad (msg : List Nat) : List Nat :=
  msg ++ 0x80 :: List.replicate ((119 - msg.length % 64) % 64) 0 ++ bytesBE 8 (8 * msg.length)

/-- The compression of the first `n` blocks of sixteen words. -/
def compressBlocks : Nat → Chain → List Nat → Chain
  | 0, s, _ => s
  | n + 1, s, ws => compressBlocks n (compress s (ws.take 16)) (ws.drop 16)

/-- The digest of a byte message, 32 bytes. -/
def sha256 (msg : List Nat) : List Nat :=
  let words := wordsOf (pad msg)
  let s := compressBlocks (words.length / 16) initial words
  bytesBE 4 s.a ++ bytesBE 4 s.b ++ bytesBE 4 s.c ++ bytesBE 4 s.d ++
    bytesBE 4 s.e ++ bytesBE 4 s.f ++ bytesBE 4 s.g ++ bytesBE 4 s.h

@[simp] theorem bytesBE_length (k n : Nat) : (bytesBE k n).length = k := by
  induction k generalizing n with
  | zero => rfl
  | succ k ih => simp [bytesBE, ih]

theorem bytesBE_lt (k n : Nat) : ∀ b ∈ bytesBE k n, b < 256 := by
  induction k generalizing n with
  | zero => simp [bytesBE]
  | succ k ih =>
    intro b hb
    simp only [bytesBE, List.mem_append, List.mem_singleton] at hb
    rcases hb with hb | rfl
    · exact ih _ b hb
    · omega

theorem sha256_length (msg : List Nat) : (sha256 msg).length = 32 := by
  simp [sha256]

theorem sha256_lt (msg : List Nat) : ∀ b ∈ sha256 msg, b < 256 := by
  intro b hb
  simp only [sha256, List.mem_append] at hb
  rcases hb with ((((((h | h) | h) | h) | h) | h) | h) | h <;> exact bytesBE_lt _ _ b h

/-! ## Hexadecimal digests -/

/-- The two hexadecimal digits of a byte. -/
def hexByte (b : Nat) : List Char := [Json.hexDigit (b / 16), Json.hexDigit (b % 16)]

/-- The lower-case hexadecimal text of a byte list. -/
def hexdigest (bytes : List Nat) : String := String.ofList (bytes.flatMap hexByte)

/-- The UTF-8 bytes of a text. -/
def utf8 (text : List Char) : List Nat :=
  text.flatMap fun c => (String.utf8EncodeChar c).map UInt8.toNat

/-- 64 characters among `0-9a-f`. -/
def isSha256Hex (s : String) : Prop :=
  s.toList.length = 64 ∧ ∀ c ∈ s.toList, c ∈ "0123456789abcdef".toList

instance (s : String) : Decidable (isSha256Hex s) := inferInstanceAs (Decidable (_ ∧ _))

theorem hexDigit_mem : ∀ n < 16, Json.hexDigit n ∈ "0123456789abcdef".toList := by decide

theorem isSha256Hex_hexdigest (msg : List Nat) : isSha256Hex (hexdigest (sha256 msg)) := by
  constructor
  · have hlen : ∀ l : List Nat, (l.flatMap hexByte).length = 2 * l.length := by
      intro l
      induction l with
      | nil => rfl
      | cons b l ih => simp [hexByte, ih]; omega
    rw [hexdigest, String.toList_ofList, hlen, sha256_length]
  · intro c hc
    rw [hexdigest, String.toList_ofList, List.mem_flatMap] at hc
    obtain ⟨b, hb, hc⟩ := hc
    have hb' := sha256_lt msg b hb
    simp only [hexByte, List.mem_cons, List.not_mem_nil, or_false] at hc
    rcases hc with rfl | rfl
    · exact hexDigit_mem _ (by omega)
    · exact hexDigit_mem _ (by omega)

/-- `sha256(text.encode("utf-8")).hexdigest()`. -/
@[irreducible] def hexOf (text : List Char) : String := hexdigest (sha256 (utf8 text))

theorem isSha256Hex_hexOf (text : List Char) : isSha256Hex (hexOf text) := by
  unfold hexOf
  exact isSha256Hex_hexdigest _

example : hexOf ['a', 'b', 'c'] =
    "ba7816bf8f01cfea414140de5dae2223b00361a396177a9cb410ff61f20015ad" := by decide +kernel

/-! ## Keyed digests -/

/-- The key of `hmac`, 64 bytes: hashed when longer, then padded with zeros. -/
def hmacKey (key : List Nat) : List Nat :=
  let k := if 64 < key.length then sha256 key else key
  k ++ List.replicate (64 - k.length) 0

/-- `hmac.new(key, msg, sha256).hexdigest()`. -/
@[irreducible] def hmacHex (key msg : List Nat) : String :=
  let k := hmacKey key
  hexdigest (sha256 (k.map (· ^^^ 0x5c) ++ sha256 (k.map (· ^^^ 0x36) ++ msg)))

theorem isSha256Hex_hmacHex (key msg : List Nat) : isSha256Hex (hmacHex key msg) := by
  unfold hmacHex
  exact isSha256Hex_hexdigest _

end NightRecon.Lib.Sha256
