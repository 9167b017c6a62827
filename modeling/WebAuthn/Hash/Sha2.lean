import WebAuthn.Bytes

/-!
# The SHA-2 family

One construction over words of `w` bits, and its two members that the library uses.

* `Sha2 w` — what a member fixes: rotation amounts, round constants, initial words, digest length;
* `Sha2.hash` — pad, cut into blocks of sixteen words, compress;
* `sha256`, `sha512` — the digests of 32 and 64 bytes; `sha256_length`, `sha512_length`.
-/

namespace WebAuthn

/-- The parameters of one hash function of the family, over words of `w` bits. -/
structure Sha2 (w : Nat) where
  /-- The rotations of the first working word. -/
  sumA : Nat × Nat × Nat
  /-- The rotations of the fifth working word. -/
  sumE : Nat × Nat × Nat
  /-- Two rotations and a shift of the schedule word fifteen places back. -/
  mixOld : Nat × Nat × Nat
  /-- Two rotations and a shift of the schedule word two places back. -/
  mixNew : Nat × Nat × Nat
  /-- One constant for each round. -/
  constants : List (BitVec w)
  /-- The chaining words before the first block. -/
  initial : List (BitVec w)

namespace Sha2

variable {w : Nat}

/-- The eight working words of a compression. -/
structure Working (w : Nat) where
  a : BitVec w
  b : BitVec w
  c : BitVec w
  d : BitVec w
  e : BitVec w
  f : BitVec w
  g : BitVec w
  h : BitVec w

def Working.toList (s : Working w) : List (BitVec w) :=
  [s.a, s.b, s.c, s.d, s.e, s.f, s.g, s.h]

def Working.ofList (words : List (BitVec w)) : Working w :=
  let nth := fun i => words.getD i 0
  ⟨nth 0, nth 1, nth 2, nth 3, nth 4, nth 5, nth 6, nth 7⟩

/-! ### Words and blocks -/

/-- The first `count` pieces of `size` items. -/
def pieces {α : Type} (size : Nat) : (count : Nat) → List α → List (List α)
  | 0, _ => []
  | count + 1, items => items.take size :: pieces size count (items.drop size)

/-- A word from its bytes, most significant first. -/
def word (bytes : Bytes) : BitVec w :=
  BitVec.ofNat w (Bytes.toNat bytes)

/-- The message, a one bit, zero bits up to a whole number of blocks, and the bit length in two words. -/
def padded (w : Nat) (message : Bytes) : Bytes :=
  let block := 2 * w
  let lengthBytes := w / 4
  let zeros := (block - (message.length + 1 + lengthBytes) % block) % block
  message ++ 0x80 :: (List.replicate zeros 0 ++ Bytes.ofNat lengthBytes (8 * message.length))

/-! ### Compression -/

/-- The exclusive or of three rotations. -/
def rotations (r : Nat × Nat × Nat) (x : BitVec w) : BitVec w :=
  x.rotateRight r.1 ^^^ x.rotateRight r.2.1 ^^^ x.rotateRight r.2.2

def rotationsAndShift (r : Nat × Nat × Nat) (x : BitVec w) : BitVec w :=
  x.rotateRight r.1 ^^^ x.rotateRight r.2.1 ^^^ (x >>> r.2.2)

/-- One round: the working words take in one constant and one schedule word. -/
def round (v : Sha2 w) (s : Working w) (constant scheduled : BitVec w) : Working w :=
  let choice := (s.e &&& s.f) ^^^ (~~~s.e &&& s.g)
  let majority := (s.a &&& s.b) ^^^ (s.a &&& s.c) ^^^ (s.b &&& s.c)
  let t := s.h + rotations v.sumE s.e + choice + constant + scheduled
  ⟨t + rotations v.sumA s.a + majority, s.a, s.b, s.c, s.d + t, s.e, s.f, s.g⟩

/-- The sixteen schedule words one place further on. -/
def slide (v : Sha2 w) (window : List (BitVec w)) : List (BitVec w) :=
  let next := rotationsAndShift v.mixNew (window.getD 14 0) + window.getD 9 0 +
    rotationsAndShift v.mixOld (window.getD 1 0) + window.getD 0 0
  window.drop 1 ++ [next]

/-- The rounds of one block, a constant at a time. -/
def rounds (v : Sha2 w) : List (BitVec w) → List (BitVec w) → Working w → Working w
  | [], _, s => s
  | k :: constants, window, s =>
    rounds v constants (slide v window) (round v s k (window.getD 0 0))

/-- The chaining words after one more block. -/
def compress (v : Sha2 w) (chaining : List (BitVec w)) (block : Bytes) : List (BitVec w) :=
  let window := (pieces (w / 8) 16 block).map word
  let s := rounds v v.constants window (Working.ofList chaining)
  chaining.zipWith (· + ·) s.toList

def hash (v : Sha2 w) (message : Bytes) : Bytes :=
  let input := padded w message
  let words := (pieces (2 * w) (input.length / (2 * w)) input).foldl v.compress v.initial
  words.flatMap fun x => Bytes.ofNat (w / 8) x.toNat

theorem rounds_constants_length (v : Sha2 w) (chaining : List (BitVec w)) (block : Bytes)
    (h : chaining.length = 8) : (v.compress chaining block).length = 8 := by
  simp [compress, Working.toList, h]

theorem foldl_compress_length (v : Sha2 w) (blocks : List Bytes) (chaining : List (BitVec w))
    (h : chaining.length = 8) : (blocks.foldl v.compress chaining).length = 8 := by
  induction blocks generalizing chaining with
  | nil => exact h
  | cons block rest ih => exact ih _ (v.rounds_constants_length chaining block h)

/-- A digest has eight words. -/
theorem hash_length (v : Sha2 w) (message : Bytes) (h : v.initial.length = 8) :
    (v.hash message).length = 8 * (w / 8) := by
  have hw : ∀ words : List (BitVec w),
      (words.flatMap fun x => Bytes.ofNat (w / 8) x.toNat).length = words.length * (w / 8) := by
    intro words
    induction words with
    | nil => simp
    | cons x words ih => simp [Bytes.ofNat_length, ih, Nat.add_mul, Nat.add_comm]
  simp only [hash, hw, foldl_compress_length v _ _ h]

end Sha2

/-! ### The two members -/

def Sha2.variant256 : Sha2 32 where
  sumA := (2, 13, 22)
  sumE := (6, 11, 25)
  mixOld := (7, 18, 3)
  mixNew := (17, 19, 10)
  constants := [
    0x428a2f98, 0x71374491, 0xb5c0fbcf, 0xe9b5dba5, 0x3956c25b, 0x59f111f1, 0x923f82a4, 0xab1c5ed5,
    0xd807aa98, 0x12835b01, 0x243185be, 0x550c7dc3, 0x72be5d74, 0x80deb1fe, 0x9bdc06a7, 0xc19bf174,
    0xe49b69c1, 0xefbe4786, 0x0fc19dc6, 0x240ca1cc, 0x2de92c6f, 0x4a7484aa, 0x5cb0a9dc, 0x76f988da,
    0x983e5152, 0xa831c66d, 0xb00327c8, 0xbf597fc7, 0xc6e00bf3, 0xd5a79147, 0x06ca6351, 0x14292967,
    0x27b70a85, 0x2e1b2138, 0x4d2c6dfc, 0x53380d13, 0x650a7354, 0x766a0abb, 0x81c2c92e, 0x92722c85,
    0xa2bfe8a1, 0xa81a664b, 0xc24b8b70, 0xc76c51a3, 0xd192e819, 0xd6990624, 0xf40e3585, 0x106aa070,
    0x19a4c116, 0x1e376c08, 0x2748774c, 0x34b0bcb5, 0x391c0cb3, 0x4ed8aa4a, 0x5b9cca4f, 0x682e6ff3,
    0x748f82ee, 0x78a5636f, 0x84c87814, 0x8cc70208, 0x90befffa, 0xa4506ceb, 0xbef9a3f7, 0xc67178f2]
  initial := [
    0x6a09e667, 0xbb67ae85, 0x3c6ef372, 0xa54ff53a, 0x510e527f, 0x9b05688c, 0x1f83d9ab, 0x5be0cd19]

def Sha2.variant512 : Sha2 64 where
  sumA := (28, 34, 39)
  sumE := (14, 18, 41)
  mixOld := (1, 8, 7)
  mixNew := (19, 61, 6)
  constants := [
    0x428a2f98d728ae22, 0x7137449123ef65cd, 0xb5c0fbcfec4d3b2f, 0xe9b5dba58189dbbc,
    0x3956c25bf348b538, 0x59f111f1b605d019, 0x923f82a4af194f9b, 0xab1c5ed5da6d8118,
    0xd807aa98a3030242, 0x12835b0145706fbe, 0x243185be4ee4b28c, 0x550c7dc3d5ffb4e2,
    0x72be5d74f27b896f, 0x80deb1fe3b1696b1, 0x9bdc06a725c71235, 0xc19bf174cf692694,
    0xe49b69c19ef14ad2, 0xefbe4786384f25e3, 0x0fc19dc68b8cd5b5, 0x240ca1cc77ac9c65,
    0x2de92c6f592b0275, 0x4a7484aa6ea6e483, 0x5cb0a9dcbd41fbd4, 0x76f988da831153b5,
    0x983e5152ee66dfab, 0xa831c66d2db43210, 0xb00327c898fb213f, 0xbf597fc7beef0ee4,
    0xc6e00bf33da88fc2, 0xd5a79147930aa725, 0x06ca6351e003826f, 0x142929670a0e6e70,
    0x27b70a8546d22ffc, 0x2e1b21385c26c926, 0x4d2c6dfc5ac42aed, 0x53380d139d95b3df,
    0x650a73548baf63de, 0x766a0abb3c77b2a8, 0x81c2c92e47edaee6, 0x92722c851482353b,
    0xa2bfe8a14cf10364, 0xa81a664bbc423001, 0xc24b8b70d0f89791, 0xc76c51a30654be30,
    0xd192e819d6ef5218, 0xd69906245565a910, 0xf40e35855771202a, 0x106aa07032bbd1b8,
    0x19a4c116b8d2d0c8, 0x1e376c085141ab53, 0x2748774cdf8eeb99, 0x34b0bcb5e19b48a8,
    0x391c0cb3c5c95a63, 0x4ed8aa4ae3418acb, 0x5b9cca4f7763e373, 0x682e6ff3d6b2b8a3,
    0x748f82ee5defb2fc, 0x78a5636f43172f60, 0x84c87814a1f0ab72, 0x8cc702081a6439ec,
    0x90befffa23631e28, 0xa4506cebde82bde9, 0xbef9a3f7b2c67915, 0xc67178f2e372532b,
    0xca273eceea26619c, 0xd186b8c721c0c207, 0xeada7dd6cde0eb1e, 0xf57d4f7fee6ed178,
    0x06f067aa72176fba, 0x0a637dc5a2c898a6, 0x113f9804bef90dae, 0x1b710b35131c471b,
    0x28db77f523047d84, 0x32caab7b40c72493, 0x3c9ebe0a15c9bebc, 0x431d67c49c100d4c,
    0x4cc5d4becb3e42b6, 0x597f299cfc657e2a, 0x5fcb6fab3ad6faec, 0x6c44198c4a475817]
  initial := [
    0x6a09e667f3bcc908, 0xbb67ae8584caa73b, 0x3c6ef372fe94f82b, 0xa54ff53a5f1d36f1,
    0x510e527fade682d1, 0x9b05688c2b3e6c1f, 0x1f83d9abfb41bd6b, 0x5be0cd19137e2179]

def sha256 (message : Bytes) : Bytes :=
  Sha2.variant256.hash message

def sha512 (message : Bytes) : Bytes :=
  Sha2.variant512.hash message

theorem sha256_length (message : Bytes) : (sha256 message).length = 32 :=
  Sha2.hash_length _ message rfl

theorem sha512_length (message : Bytes) : (sha512 message).length = 64 :=
  Sha2.hash_length _ message rfl

end WebAuthn
