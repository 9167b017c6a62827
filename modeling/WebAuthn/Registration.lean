import WebAuthn.Attestation.Registry
import WebAuthn.Credential
import WebAuthn.Policy.Basic
import WebAuthn.Text.Quoted

/-!
# Registration

* `Registration` — what a client presents to register a credential;
* `Registration.validate` — the credential that it attests, if every check passes in order;
* `Registration.credential` — that credential with its owner.
-/

namespace WebAuthn

/-- What a client presents to register a credential. -/
structure Registration where
  clientDataJson : Bytes
  attestationObject : Bytes

/-- A credential that was attested. -/
structure Attestation where
  credentialId : Bytes
  publicKey : Cose.Key
  signCount : UInt32
  format : String
  deriving DecidableEq

namespace Registration

/-- Fails unless the policy accepts the algorithm of the new credential. -/
def verifyAlgorithm (policy : Policy) (attested : AttestedCredential) : Audited Unit :=
  let algorithm := attested.publicKey.algorithm.identifier
  if policy.allows algorithm then pure ()
  else .refuseWith .invalidAttestationObject .warn
    s!"registration rejected | algorithm {algorithm} is not allowed"

/-- Fails unless the format of the statement is known and its verifier accepts it. -/
def verifyStatement (registration : Registration) (registry : StatementRegistry)
    (object : AttestationObject) : Audited Unit := do
  let verifier ← (registry.verifierFor object.format).onFailure fun _ =>
    [⟨.warn, s!"registration rejected | unsupported attestation format {Quoted.text object.format}"⟩]
  verifier object registration.clientDataJson

/-- The attested credential, if client data, authenticator data, algorithm and statement all pass. -/
def validate (registration : Registration) (policy : Policy) (registry : StatementRegistry)
    (challenge : Challenge) : Audited Attestation := do
  let _ ← ClientData.accept registration.clientDataJson policy.origins .registration challenge
  let object ← AttestationObject.parse registration.attestationObject
  object.data.verifyRpId policy.rpId
  object.data.verifyUserPresent
  object.data.verifyUserVerification policy.userVerification
  let attested ← object.attested
  verifyAlgorithm policy attested
  registration.verifyStatement registry object
  return ⟨attested.credentialId, attested.publicKey, object.data.signCount, object.format⟩

def credential (registration : Registration) (policy : Policy) (registry : StatementRegistry)
    (challenge : Challenge) (transports : TextSet) (owner : Uuid) : Audited Credential := do
  let attestation ← registration.validate policy registry challenge
  let algorithm := attestation.publicKey.algorithm.name
  .note .info
    s!"credential registered for {owner.toText} | format {attestation.format} | algorithm {algorithm}"
  return ⟨attestation.credentialId, attestation.publicKey, attestation.signCount, transports, owner,
    attestation.format⟩

end Registration

end WebAuthn
