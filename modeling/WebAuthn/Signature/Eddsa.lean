import WebAuthn.Curve.Edwards25519
import WebAuthn.Hash.Sha2

/-!
# Ed25519

* `Eddsa.verify` — the strict rule: a reduced scalar, no point of small order on either side, and the first
  half of the signature equal byte for byte to the point that the equation gives;
* `Eddsa.publicKey`, `Eddsa.sign` — the key and the signatures of a 32-byte secret.
-/

namespace WebAuthn.Eddsa

open Edwards25519

structure Signature where
  point : Bytes
  scalar : Bytes
  deriving DecidableEq, Repr

def Signature.ofBytes? (bytes : Bytes) : Option Signature :=
  if bytes.length = 64 then some ⟨bytes.take 32, bytes.drop 32⟩ else none

def Signature.toBytes (signature : Signature) : Bytes :=
  signature.point ++ signature.scalar

/-- A SHA-512 digest as a scalar. -/
def scalarOfHash (message : Bytes) : Nat :=
  Bytes.toNatLittle (sha512 message) % order

/-- Whether the signature of the message belongs to the key, which is given encoded and as a point. -/
def verify (encoded : Bytes) (key : Point) (message : Bytes) (signature : Signature) : Bool :=
  let s := Bytes.toNatLittle signature.scalar
  match Point.decompress? signature.point with
  | none => false
  | some point =>
    if s ≥ order || point.hasSmallOrder || key.hasSmallOrder then false
    else
      let k := scalarOfHash (signature.point ++ encoded ++ message)
      ((key.neg.scale k).add (Point.base.scale s)).compress == signature.point

/-- The secret scalar: the first half of the digest of the secret, with the bits that the scheme fixes. -/
def secretScalar (secret : Bytes) : Nat :=
  let n := Bytes.toNatLittle ((sha512 secret).take 32)
  n % Nat.pow 2 254 / 8 * 8 + Nat.pow 2 254

def publicKey (secret : Bytes) : Bytes :=
  (Point.base.scale (secretScalar secret)).compress

theorem publicKey_length (secret : Bytes) : (publicKey secret).length = 32 :=
  Point.compress_length _

def sign (secret : Bytes) (message : Bytes) : Signature :=
  let nonce := scalarOfHash ((sha512 secret).drop 32 ++ message)
  let point := (Point.base.scale nonce).compress
  let k := scalarOfHash (point ++ publicKey secret ++ message)
  ⟨point, Bytes.ofNatLittle 32 ((nonce + k * secretScalar secret) % order)⟩

end WebAuthn.Eddsa
