import WebAuthn.Hash.Sha2
import WebAuthn.Number.Modular

/-!
# RSA signatures with SHA-256

* `Rsa.PublicKey`, `PublicKey.ofBytes?` — a modulus and an exponent within the accepted sizes;
* `Rsa.Pkcs1` — the deterministic padding: a signature is right if it opens to the one padded digest;
* `Rsa.Pss` — the salted padding, with a salt as long as the digest.

A signature has exactly as many bytes as the modulus and is smaller than it, whatever the padding.
-/

namespace WebAuthn.Rsa

structure PublicKey where
  modulus : Nat
  exponent : Nat
  deriving DecidableEq, Repr

def maxModulusBits : Nat := 4096

def maxExponent : Nat := Nat.pow 2 33 - 1

def bitLength (n : Nat) : Nat :=
  if n = 0 then 0 else n.log2 + 1

namespace PublicKey

/-- Whether modulus and exponent are within the accepted sizes: both odd, the exponent below the modulus. -/
def isAccepted (key : PublicKey) : Bool :=
  bitLength key.modulus ≤ maxModulusBits && key.exponent < key.modulus && key.modulus % 2 == 1 &&
    key.exponent % 2 == 1 && 2 ≤ key.exponent && key.exponent ≤ maxExponent

/-- The key with these big-endian numbers, if it is accepted. -/
def ofBytes? (modulus exponent : Bytes) : Option PublicKey :=
  let key : PublicKey := ⟨Bytes.toNat modulus, Bytes.toNat exponent⟩
  if key.isAccepted then some key else none

def bits (key : PublicKey) : Nat :=
  bitLength key.modulus

/-- The number of bytes of the modulus, and of every signature. -/
def size (key : PublicKey) : Nat :=
  (key.bits + 7) / 8

/-- The number that a signature opens to, if the signature has the right size. -/
def open? (key : PublicKey) (signature : Bytes) : Option Nat :=
  let s := Bytes.toNat signature
  if signature.length = key.size ∧ s < key.modulus then
    some (Modular.pow key.modulus s key.exponent)
  else none

end PublicKey

/-- A key that can sign. The two primes are part of the key but not needed for a signature. -/
structure PrivateKey where
  publicKey : PublicKey
  exponent : Nat
  primes : Nat × Nat

/-- The signature that opens to a number. -/
def PrivateKey.close (key : PrivateKey) (opened : Nat) : Bytes :=
  Bytes.ofNat key.publicKey.size (Modular.pow key.publicKey.modulus opened key.exponent)

/-! ### Deterministic padding -/

namespace Pkcs1

/-- The header that names SHA-256 in front of a digest. -/
def digestHeader : Bytes :=
  [0x30, 0x31, 0x30, 0x0d, 0x06, 0x09, 0x60, 0x86, 0x48, 0x01, 0x65, 0x03, 0x04, 0x02, 0x01, 0x05, 0x00,
    0x04, 0x20]

/-- The padded digest of a message in `size` bytes, if it fits with at least eight bytes of padding. -/
def padded? (size : Nat) (message : Bytes) : Option Bytes :=
  let content := digestHeader ++ sha256 message
  if size < content.length + 11 then none
  else some (0 :: 1 :: (List.replicate (size - content.length - 3) 0xff ++ 0 :: content))

/-- Whether the signature opens to the padded digest of the message. -/
def verify (key : PublicKey) (message signature : Bytes) : Bool :=
  match padded? key.size message, key.open? signature with
  | some expected, some opened => Bytes.ofNat key.size opened == expected
  | _, _ => false

/-- The signature of a message, if the key is long enough. -/
def sign? (key : PrivateKey) (message : Bytes) : Option Bytes :=
  (padded? key.publicKey.size message).map fun content => key.close (Bytes.toNat content)

end Pkcs1

/-! ### Salted padding -/

namespace Pss

def saltLength : Nat := 32

/-- The first `length` bytes of the mask that a seed expands to. -/
def mask (seed : Bytes) (length : Nat) : Bytes :=
  let block := fun i => sha256 (seed ++ Bytes.ofNat 4 i)
  ((List.range ((length + 31) / 32)).flatMap block).take length

/-- The digest that binds a message to a salt. -/
def saltedDigest (message salt : Bytes) : Bytes :=
  sha256 (List.replicate 8 0 ++ sha256 message ++ salt)

/-- The bytes of a mask applied to a block whose `spare` topmost bits stay zero. -/
def applyMask (spare : Nat) (seed block : Bytes) : Bytes :=
  match block.zipWith (· ^^^ ·) (mask seed block.length) with
  | [] => []
  | first :: rest => UInt8.ofNat (first.toNat % Nat.pow 2 (8 - spare)) :: rest

/-- The number of bytes of a padded digest under a modulus of `bits` bits. -/
def paddedLength (bits : Nat) : Nat :=
  (bits - 1 + 7) / 8

/-- The number of bits of the first padded byte that stay zero. -/
def spareBits (bits : Nat) : Nat :=
  8 * paddedLength bits - (bits - 1)

/-- The padded digest of a message under a salt. -/
def padded (bits : Nat) (message salt : Bytes) : Bytes :=
  let digest := saltedDigest message salt
  let zeros := paddedLength bits - digest.length - salt.length - 2
  applyMask (spareBits bits) digest (List.replicate zeros 0 ++ 1 :: salt) ++ digest ++ [0xbc]

/-- Whether a padded digest is one of the message, for the salt that it carries. -/
def isPadded (bits : Nat) (message content : Bytes) : Bool :=
  let length := paddedLength bits
  if length < 32 + saltLength + 2 then false
  else
    let masked := content.take (length - 33)
    let digest := (content.drop (length - 33)).take 32
    let block := applyMask (spareBits bits) digest masked
    let zeros := length - 32 - saltLength - 2
    let salt := block.drop (zeros + 1)
    content.getLastD 0 == 0xbc &&
      (masked.headD 0).toNat < Nat.pow 2 (8 - spareBits bits) &&
      block.take (zeros + 1) == List.replicate zeros 0 ++ [1] &&
      saltedDigest message salt == digest

/-- Whether the signature opens to a padded digest of the message. -/
def verify (key : PublicKey) (message signature : Bytes) : Bool :=
  match key.open? signature with
  | some opened => isPadded key.bits message (Bytes.ofNat (paddedLength key.bits) opened)
  | none => false

def sign (key : PrivateKey) (message salt : Bytes) : Bytes :=
  key.close (Bytes.toNat (padded key.publicKey.bits message salt))

end Pss

end WebAuthn.Rsa
