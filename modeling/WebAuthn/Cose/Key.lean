import WebAuthn.Audited
import WebAuthn.Cbor.Decoder
import WebAuthn.Cbor.Encoder
import WebAuthn.Cose.Algorithm
import WebAuthn.Signature.Ecdsa
import WebAuthn.Signature.Eddsa
import WebAuthn.Signature.Rsa

/-!
# Credential public keys

* `Cose.Key` — a public key with the algorithm that it is bound to;
* `Cose.Key.usable` — whether key material is what its type needs;
* `Cose.Key.ofCbor`, `Cose.Key.decode` — the key of a data item and of a byte string;
* `Cose.Key.toCbor`, `Cose.Key.encode` — the data item of a key and its shortest encoding;
* `Cose.Key.verify` — whether a signature of authenticator data and client data hash belongs to the key.
-/

namespace WebAuthn.Cose

/-- A field element or encoded point of 32 bytes. -/
abbrev Coordinate := FixedBytes 32

/-- A key on a curve with two coordinates. -/
structure Ec2Key where
  algorithm : Algorithm
  curve : Curve
  x : Coordinate
  y : Coordinate
  deriving DecidableEq

structure OkpKey where
  algorithm : Algorithm
  curve : Curve
  x : Coordinate
  deriving DecidableEq

/-- A modulus and an exponent, as they were given. -/
structure RsaKey where
  algorithm : Algorithm
  modulus : Bytes
  exponent : Bytes
  deriving DecidableEq

/-- A credential public key. -/
inductive Key where
  | ec2 (key : Ec2Key)
  | okp (key : OkpKey)
  | rsa (key : RsaKey)
  deriving DecidableEq

def malformedKey {α : Type} (reason : String) : Audited α :=
  .refuseWith .invalidAttestationObject .debug s!"malformed credential public key -> {reason}"

/-- The value, or the check of key material that is malformed for want of it. -/
def orMalformedKey {α : Type} (value : Option α) (reason : String) : Audited α :=
  match value with
  | some a => pure a
  | none => malformedKey reason

/-! ### Key material -/

/-- The material, or the check of key material that is malformed and noted for want of it. -/
def orRejectedKey {α : Type} (material : Option α) (kind reason : String) : Audited α :=
  match material with
  | some a => pure a
  | none => do
    .note .debug s!"{kind} public key rejected"
    malformedKey reason

/-- The point of a two-coordinate key, which has to lie on P-256. -/
def Ec2Key.point (key : Ec2Key) : Audited P256.Point :=
  orRejectedKey (P256.Point.ofAffine? (Bytes.toNat key.x.bytes) (Bytes.toNat key.y.bytes)) "ES256"
    "EC2 point is not on P-256"

/-- The point of a one-coordinate key, which has to decompress on the curve of Ed25519. -/
def OkpKey.point (key : OkpKey) : Audited Edwards25519.Point :=
  orRejectedKey (Edwards25519.Point.decompress? key.x.bytes) "EdDSA" "OKP point does not decompress"

/-- The numbers of an RSA key, which have to be within the accepted sizes. -/
def RsaKey.publicKey (key : RsaKey) : Audited Rsa.PublicKey :=
  orRejectedKey (Rsa.PublicKey.ofBytes? key.modulus key.exponent) "RSA" "RSA parameters out of range"

namespace Key

def algorithm : Key → Algorithm
  | .ec2 key => key.algorithm
  | .okp key => key.algorithm
  | .rsa key => key.algorithm

/-- Whether the key material is what the type of the key needs. -/
def usable : Key → Audited Unit
  | .ec2 key => do let _ ← key.point
  | .okp key => do let _ ← key.point
  | .rsa key => do let _ ← key.publicKey

end Key

/-! ### Labels -/

def labelKeyType : Int := 1

def labelAlgorithm : Int := 3

def labelCurve : Int := -1

def labelX : Int := -2

def labelY : Int := -3

/-- The label of the secret of a curve key, which a public key must not have. -/
def labelSecret : Int := -4

def labelModulus : Int := -1

def labelExponent : Int := -2

abbrev Parameters := List (Cbor.Value × Cbor.Value)

namespace Parameters

def integer? (map : Parameters) (label : Int) : Option Int :=
  match Cbor.Value.lookupLabel label map with
  | some (.int n) => some n
  | _ => none

def bytes? (map : Parameters) (label : Int) : Option Bytes :=
  match Cbor.Value.lookupLabel label map with
  | some (.bytes content) => some content
  | _ => none

/-- The coordinate under a label. -/
def coordinate (map : Parameters) (label : Int) : Audited Coordinate := do
  let bytes ← orMalformedKey (bytes? map label) "missing coordinate"
  orMalformedKey (FixedBytes.ofBytes? bytes) "coordinate has the wrong length"

def curve (map : Parameters) : Audited Curve :=
  orMalformedKey ((integer? map labelCurve).bind Curve.ofIdentifier?) "unsupported or missing curve"

def refuseSecret (map : Parameters) : Audited Unit :=
  if (Cbor.Value.lookupLabel labelSecret map).isSome then
    malformedKey "public key carries private parameters"
  else pure ()

end Parameters

/-! ### Reading a key -/

def Ec2Key.ofParameters (algorithm : Algorithm) (map : Parameters) : Audited Ec2Key := do
  Parameters.refuseSecret map
  let curve ← Parameters.curve map
  if curve ≠ .p256 then malformedKey "EC2 key is not on P-256"
  else
    let x ← Parameters.coordinate map labelX
    let y ← Parameters.coordinate map labelY
    let key : Ec2Key := ⟨algorithm, curve, x, y⟩
    let _ ← key.point
    return key

def OkpKey.ofParameters (algorithm : Algorithm) (map : Parameters) : Audited OkpKey := do
  Parameters.refuseSecret map
  let curve ← Parameters.curve map
  if curve ≠ .ed25519 then malformedKey "OKP key is not on Ed25519"
  else
    let x ← Parameters.coordinate map labelX
    let key : OkpKey := ⟨algorithm, curve, x⟩
    let _ ← key.point
    return key

/-- The fewest bytes of an RSA modulus, whose first byte is not zero. -/
def minimumModulusLength : Nat := 256

/-- The most bytes of an RSA exponent. -/
def maximumExponentLength : Nat := 8

def RsaKey.ofParameters (algorithm : Algorithm) (map : Parameters) : Audited RsaKey := do
  -- no label is refused, as that of the secret is in curve keys
  let modulus ← orMalformedKey (Parameters.bytes? map labelModulus) "RSA key is missing its modulus"
  let exponent ← orMalformedKey (Parameters.bytes? map labelExponent) "RSA key is missing its exponent"
  if modulus.length < minimumModulusLength ∨ modulus.headD 0 = 0 then
    malformedKey "RSA modulus is shorter than 2048 bits"
  else if exponent.length = 0 ∨ exponent.length > maximumExponentLength then
    malformedKey "RSA exponent out of range"
  else
    let key : RsaKey := ⟨algorithm, modulus, exponent⟩
    let _ ← key.publicKey
    return key

namespace Key

def isLabel : Cbor.Value → Bool
  | .int _ => true
  | _ => false

/-- The key of a key map: type and algorithm belong together, and the rest is what the type needs. -/
def ofParameters (map : Parameters) : Audited Key := do
  if map.any fun entry => !isLabel entry.1 then
    malformedKey "credential public key has a non integer label"
  else
    let keyType ← orMalformedKey ((Parameters.integer? map labelKeyType).bind KeyType.ofIdentifier?)
      "unsupported or missing key type"
    let algorithm ← orMalformedKey
      ((Parameters.integer? map labelAlgorithm).bind Algorithm.ofIdentifier?)
      "unsupported or missing algorithm"
    if algorithm.keyType ≠ keyType then malformedKey "algorithm does not match key type"
    else
      match keyType with
      | .ec2 => Key.ec2 <$> Ec2Key.ofParameters algorithm map
      | .okp => Key.okp <$> OkpKey.ofParameters algorithm map
      | .rsa => Key.rsa <$> RsaKey.ofParameters algorithm map

def ofCbor : Cbor.Value → Audited Key
  | .map entries => ofParameters entries
  | _ => malformedKey "credential public key is not a map"

/-- The key of a byte string that is one data item. -/
def decode (bytes : Bytes) : Audited Key :=
  match Cbor.decode {} bytes with
  | .ok value => ofCbor value
  | .error error =>
    .refuseWith .invalidAttestationObject .debug
      s!"credential public key decoding error -> {error.message}"

/-! ### Writing a key -/

/-- The entries of a key, in the order in which they are written. -/
def parameters (key : Key) : Parameters :=
  let integer := fun label value => (Cbor.Value.int label, Cbor.Value.int value)
  let bytes := fun label value => (Cbor.Value.int label, Cbor.Value.bytes value)
  match key with
  | .ec2 key => [
      integer labelKeyType KeyType.ec2.identifier,
      integer labelAlgorithm key.algorithm.identifier,
      integer labelCurve key.curve.identifier,
      bytes labelX key.x.bytes,
      bytes labelY key.y.bytes]
  | .okp key => [
      integer labelKeyType KeyType.okp.identifier,
      integer labelAlgorithm key.algorithm.identifier,
      integer labelCurve key.curve.identifier,
      bytes labelX key.x.bytes]
  | .rsa key => [
      integer labelKeyType KeyType.rsa.identifier,
      integer labelAlgorithm key.algorithm.identifier,
      bytes labelModulus key.modulus,
      bytes labelExponent key.exponent]

def toCbor (key : Key) : Cbor.Value :=
  .map key.parameters

def encode (key : Key) : Bytes :=
  Cbor.encode key.toCbor

end Key

/-! ### Signatures -/

def Ec2Key.verifies (key : Ec2Key) (signature message : Bytes) : Audited Bool := do
  let point ← key.point
  match Ecdsa.Signature.ofDer? signature with
  | some signature => return Ecdsa.verify point message signature
  | none => do
    .note .debug "ES256 signature encoding rejected"
    return false

def OkpKey.verifies (key : OkpKey) (signature message : Bytes) : Audited Bool := do
  let point ← key.point
  match Eddsa.Signature.ofBytes? signature with
  | some signature => return Eddsa.verify key.x.bytes point message signature
  | none => do
    .note .debug "EdDSA signature encoding rejected"
    return false

/-- Whether the signature of the message belongs to an RSA key, under the padding that its algorithm names.
An algorithm of another type of key verifies nothing. -/
def RsaKey.verifies (key : RsaKey) (signature message : Bytes) : Audited Bool := do
  let publicKey ← key.publicKey
  match key.algorithm with
  | .rs256 => return Rsa.Pkcs1.verify publicKey message signature
  | .ps256 => return Rsa.Pss.verify publicKey message signature
  | .es256 | .edDsa => return false

namespace Key

def verifies : Key → (signature message : Bytes) → Audited Bool
  | .ec2 key => key.verifies
  | .okp key => key.verifies
  | .rsa key => key.verifies

/-- Fails unless the signature belongs to the key and signs the authenticator data followed by the hash of
the client data. Unusable key material fails in the same way. -/
def verify (key : Key) (signature authenticatorData clientDataHash : Bytes) : Audited Unit := do
  let verified ← (key.verifies signature (authenticatorData ++ clientDataHash)).failingWith
    .signatureVerificationFailed
  if verified then pure () else .refuse .signatureVerificationFailed

end Key

end WebAuthn.Cose
