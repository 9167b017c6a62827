import WebAuthn.Cose.Key

/-!
# Key pairs of authenticators

* `KeyPair` — a secret for one of the algorithms;
* `KeyPair.publicKey` — the credential public key that belongs to it;
* `KeyPair.sign` — a signature in the form in which authenticators send it. Salted signatures take their salt from
  outside.
-/

namespace WebAuthn

/-- A secret for one of the algorithms. -/
inductive KeyPair where
  | es256 (secret : Nat)
  | edDsa (secret : FixedBytes 32)
  | rs256 (key : Rsa.PrivateKey)
  | ps256 (key : Rsa.PrivateKey)

namespace KeyPair

def algorithm : KeyPair → Cose.Algorithm
  | .es256 _ => .es256
  | .edDsa _ => .edDsa
  | .rs256 _ => .rs256
  | .ps256 _ => .ps256

/-- The lowest 32 bytes of a number. -/
def coordinate (n : Nat) : Cose.Coordinate :=
  ⟨Bytes.ofNat 32 n, Bytes.ofNat_length 32 n⟩

/-- The fewest bytes of a number. -/
def shortest (n : Nat) : Bytes :=
  Bytes.ofNat ((Rsa.bitLength n + 7) / 8) n

def rsaPublicKey (algorithm : Cose.Algorithm) (key : Rsa.PrivateKey) : Cose.Key :=
  .rsa ⟨algorithm, shortest key.publicKey.modulus, shortest key.publicKey.exponent⟩

def publicKey : KeyPair → Cose.Key
  | .es256 secret =>
    let point := P256.Point.base.scale secret
    .ec2 ⟨.es256, .p256, coordinate (point.affineX?.getD 0), coordinate (point.affineY?.getD 0)⟩
  | .edDsa secret => .okp ⟨.edDsa, .ed25519, ⟨Eddsa.publicKey secret.bytes, Eddsa.publicKey_length _⟩⟩
  | .rs256 key => rsaPublicKey .rs256 key
  | .ps256 key => rsaPublicKey .ps256 key

/-- A signature of the message; the salt matters for salted signatures only. -/
def sign (keyPair : KeyPair) (salt : FixedBytes 32) (message : Bytes) : Bytes :=
  match keyPair with
  | .es256 secret => (Ecdsa.sign secret message).toDer
  | .edDsa secret => (Eddsa.sign secret.bytes message).toBytes
  | .rs256 key => (Rsa.Pkcs1.sign? key message).getD []
  | .ps256 key => Rsa.Pss.sign key message salt.bytes

end KeyPair

end WebAuthn
