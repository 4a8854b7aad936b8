import Mathlib.Data.List.Infix
import Mathlib.Data.Set.Basic

/-!
# Authenticated ciphers that are fed piece by piece

* `Cipher` — what an encryptor and a decryptor put out for what they were fed, the tag of an
  encryption, and whether a decryptor's tag verifies;
* `Lawful cipher made` — decryption succeeds exactly on what came of the encryptions `made`, and
  what is put out for a piece stays put;
* `update` — what one more piece adds, with `append_update`;
* `ofKeystream` — the cipher of a keystream and a tag, which is lawful (`lawful_ofKeystream`).

Finalizing puts nothing out, as in every mode that is a stream cipher.
-/

namespace NightRecon.Lib.Aead

abbrev Bytes := List UInt8

/-- What is encrypted, and under what. -/
structure Encryption where
  key : Bytes
  nonce : Bytes
  associated : Bytes
  plaintext : Bytes

/-- A cipher with associated data; each function takes the key, the nonce and the associated data
first. -/
structure Cipher where
  encrypted : Bytes → Bytes → Bytes → Bytes → Bytes
  decrypted : Bytes → Bytes → Bytes → Bytes → Bytes
  tag : Bytes → Bytes → Bytes → Bytes → Bytes
  verifies : Bytes → Bytes → Bytes → Bytes → Bytes → Bool

/-- What more input is put out for stands behind what was put out already. -/
def Streams (f : Bytes → Bytes) : Prop := ∀ x y, f x <+: f (x ++ y)

/-- What a piece adds to what is put out. -/
def update (f : Bytes → Bytes) (fed piece : Bytes) : Bytes := (f (fed ++ piece)).drop (f fed).length

theorem append_update {f : Bytes → Bytes} (h : Streams f) (fed piece : Bytes) :
    f fed ++ update f fed piece = f (fed ++ piece) := by
  obtain ⟨more, hmore⟩ := h fed piece
  rw [update, ← hmore, List.drop_left]

/-- The ciphertext and the tag of an encryption. -/
def Cipher.seal (cipher : Cipher) (e : Encryption) : Bytes :=
  cipher.encrypted e.key e.nonce e.associated e.plaintext ++
    cipher.tag e.key e.nonce e.associated e.plaintext

/-- The encryptions `made` are all there are: a tag verifies when it and the ciphertext came of one
of them under the same key, nonce and associated data. -/
structure Lawful (cipher : Cipher) (made : Set Encryption) : Prop where
  encrypted_streams : ∀ k n a, Streams (cipher.encrypted k n a)
  decrypted_streams : ∀ k n a, Streams (cipher.decrypted k n a)
  encrypted_length : ∀ k n a p, (cipher.encrypted k n a p).length = p.length
  tag_length : ∀ k n a p, (cipher.tag k n a p).length = 16
  decrypted_encrypted : ∀ k n a p, cipher.decrypted k n a (cipher.encrypted k n a p) = p
  verifies_iff : ∀ k n a c t, cipher.verifies k n a c t = true ↔
    ∃ p, ⟨k, n, a, p⟩ ∈ made ∧ cipher.encrypted k n a p = c ∧ cipher.tag k n a p = t

variable {cipher : Cipher} {made : Set Encryption}

theorem Lawful.encrypted_nil (h : Lawful cipher made) (k n a : Bytes) :
    cipher.encrypted k n a [] = [] := List.length_eq_zero_iff.mp (h.encrypted_length k n a [])

theorem Lawful.decrypted_nil (h : Lawful cipher made) (k n a : Bytes) :
    cipher.decrypted k n a [] = [] := by
  have hnil := h.decrypted_encrypted k n a []
  rwa [h.encrypted_nil] at hnil

/-! ## Keystreams -/

/-- Every byte is combined with the keystream's byte at its place. -/
def combine (keystream : Nat → UInt8) (data : Bytes) : Bytes :=
  data.mapIdx fun i b => b ^^^ keystream i

theorem combine_combine (keystream : Nat → UInt8) (data : Bytes) :
    combine keystream (combine keystream data) = data := by
  rw [combine, combine, List.mapIdx_mapIdx]
  apply List.ext_getElem
  · exact List.length_mapIdx
  · intro i _ _
    rw [List.getElem_mapIdx]
    simp [UInt8.xor_assoc]

theorem streams_combine (keystream : Nat → UInt8) : Streams (combine keystream) := by
  intro x y
  rw [combine, combine, List.mapIdx_append]
  exact List.prefix_append _ _

/-- The cipher of a keystream and a tag. -/
def ofKeystream (keystream : Bytes → Bytes → Nat → UInt8)
    (tag : Bytes → Bytes → Bytes → Bytes → Bytes) : Cipher where
  encrypted k n _ p := combine (keystream k n) p
  decrypted k n _ c := combine (keystream k n) c
  tag := tag
  verifies k n a c t := tag k n a (combine (keystream k n) c) = t

theorem lawful_ofKeystream (keystream : Bytes → Bytes → Nat → UInt8)
    {tag : Bytes → Bytes → Bytes → Bytes → Bytes} (htag : ∀ k n a p, (tag k n a p).length = 16) :
    Lawful (ofKeystream keystream tag) Set.univ where
  encrypted_streams k n _ := streams_combine (keystream k n)
  decrypted_streams k n _ := streams_combine (keystream k n)
  encrypted_length _ _ _ _ := List.length_mapIdx
  tag_length := htag
  decrypted_encrypted k n _ p := combine_combine (keystream k n) p
  verifies_iff k n a c t := by
    constructor
    · intro h
      exact ⟨combine (keystream k n) c, Set.mem_univ _, combine_combine _ c, of_decide_eq_true h⟩
    · rintro ⟨p, -, rfl, rfl⟩
      apply decide_eq_true
      show tag k n a (combine (keystream k n) (combine (keystream k n) p)) = tag k n a p
      rw [combine_combine]

end NightRecon.Lib.Aead
