import WebAuthn.Cose.Key

/-!
# The attested credential block

| AAGUID (16) | id length (2) | credential id | credential public key |

The block has no length of its own: it ends where the data item of its key ends.

* `AttestedCredential` — what a block says about a new credential;
* `AttestedCredential.parse` — a block and what follows it;
* `AttestedCredential.parseCounted` — a block and how many bytes it takes;
* `AttestedCredential.encode` — the block with the shortest encoding of the key.
-/

namespace WebAuthn

def malformedAttestation {α : Type} (reason : String) : Audited α :=
  .refuseWith .invalidAttestationObject .debug s!"malformed attestation object -> {reason}"

/-- A new credential as its authenticator describes it. -/
structure AttestedCredential where
  /-- The model of the authenticator. -/
  aaguid : FixedBytes 16
  credentialId : Bytes
  publicKey : Cose.Key
  deriving DecidableEq

namespace AttestedCredential

def maximumIdLength : Nat := 1023

/-- The first data item of the bytes and what follows it. -/
def parseItem (bytes : Bytes) : Except Cbor.Error (Cbor.Value × Bytes) := do
  let decoder ← Cbor.Decoder.start {} bytes
  let (result, decoder) := decoder.next
  let value ← result
  return (value, decoder.remaining)

/-- The block at the front of the bytes and what follows it. -/
def parse (bytes : Bytes) : Audited (AttestedCredential × Bytes) :=
  match FixedBytes.split? 16 bytes with
  | none => malformedAttestation "attested credential data is truncated"
  | some (aaguid, rest) =>
    match FixedBytes.split? 2 rest with
    | none => malformedAttestation "attested credential data is truncated"
    | some (lengthBytes, rest) =>
      let length := Bytes.toNat lengthBytes.bytes
      if length = 0 ∨ length > maximumIdLength then
        malformedAttestation "credential id length out of range"
      else
        match FixedBytes.split? length rest with
        | none => malformedAttestation "credential id is truncated"
        | some (credentialId, rest) =>
          match parseItem rest with
          | .error error => malformedAttestation error.message
          | .ok (value, rest) => do
            let publicKey ← Cose.Key.ofCbor value
            return (⟨aaguid, credentialId.bytes, publicKey⟩, rest)

/-- Where the key of a block begins. -/
def keyStart (attested : AttestedCredential) : Nat :=
  18 + attested.credentialId.length

/-- The number of bytes that are read for the first data item of the bytes. -/
def itemLength (bytes : Bytes) : Nat :=
  match Cbor.Decoder.start {} bytes with
  | .ok decoder => decoder.next.2.position
  | .error _ => 0

/-- The block at the front of the bytes, and how many bytes it takes: those before its key and those that are read
for the key. -/
def parseCounted (bytes : Bytes) : Audited (AttestedCredential × Nat) := do
  let (attested, _) ← parse bytes
  return (attested, attested.keyStart + itemLength (bytes.drop attested.keyStart))

def encode (attested : AttestedCredential) : Bytes :=
  attested.aaguid.bytes ++ Bytes.ofNat 2 attested.credentialId.length ++
    (attested.credentialId ++ attested.publicKey.encode)

end AttestedCredential

end WebAuthn
