import WebAuthn.Authenticator.Data
import WebAuthn.Credential
import WebAuthn.Policy.Basic

/-!
# Assertions

* `Assertion` — what a client presents to use a credential;
* `Assertion.validate` — the sign count to store, if every check passes in order;
* `nextSignCount` — the counter rule: a credential that has counted once has to count up every time.
-/

namespace WebAuthn

/-- What a client presents to use a credential. -/
structure Assertion where
  clientDataJson : Bytes
  authenticatorData : Bytes
  signature : Bytes
  /-- The credential id that the client names, if it names one. -/
  credentialId : Option Bytes
  /-- The user handle that the authenticator names, if it names one. -/
  userHandle : Option Bytes

/-- The sign count to store after one was presented. Credentials that never count stay at zero. -/
def nextSignCount (stored presented : UInt32) : Audited UInt32 :=
  if 0 < stored ∧ presented ≤ stored then
    .refuseWith .possibleCloneDetected .error
      s!"possible cloned authenticator | stored sign count {stored.toNat} presented {presented.toNat}"
  else pure presented

namespace Assertion

/-- Whether a named value is there and another than the expected one. -/
def differs (named : Option Bytes) (expected : Bytes) : Bool :=
  named.any fun bytes => !Bytes.same bytes expected

/-- Fails if the client names another credential. -/
def verifyCredentialId (assertion : Assertion) (credential : Credential) : Audited Unit :=
  if differs assertion.credentialId credential.id then
    .refuseWith .unknownCredential .warn "assertion rejected | credential id does not match"
  else pure ()

/-- Fails if the authenticator names another owner. -/
def verifyUserHandle (assertion : Assertion) (credential : Credential) : Audited Unit :=
  if differs assertion.userHandle credential.userHandle then
    .refuseWith .unknownCredential .warn
      s!"assertion rejected | user handle does not belong to {credential.owner.toText}"
  else pure ()

def verifySignature (assertion : Assertion) (credential : Credential) : Audited Unit :=
  (credential.publicKey.verify assertion.signature assertion.authenticatorData
    (sha256 assertion.clientDataJson)).onFailure fun _ =>
      [⟨.warn,
        s!"assertion rejected | signature verification failed for {credential.owner.toText}"⟩]

/-- Fails if the authenticator data carries a credential, which only a registration does. -/
def refuseAttested (data : AuthenticatorData) : Audited Unit :=
  if data.flags.hasAttested then
    .refuseWith .invalidAttestationObject .warn
      "assertion rejected | authenticator data carries a credential"
  else pure ()

/-- The sign count to store, if client data, authenticator data, owner, signature and counter all pass. -/
def validate (assertion : Assertion) (policy : Policy) (credential : Credential) (challenge : Challenge) :
    Audited UInt32 := do
  assertion.verifyCredentialId credential
  let _ ← ClientData.accept assertion.clientDataJson policy.origins .authentication challenge
  let data ← AuthenticatorData.parse assertion.authenticatorData
  refuseAttested data
  data.verifyRpId policy.rpId
  data.verifyUserPresent
  data.verifyUserVerification policy.userVerification
  assertion.verifyUserHandle credential
  assertion.verifySignature credential
  nextSignCount credential.signCount data.signCount

def credential (assertion : Assertion) (policy : Policy) (credential : Credential)
    (challenge : Challenge) : Audited Credential := do
  let signCount ← assertion.validate policy credential challenge
  return credential.withSignCount signCount

end Assertion

end WebAuthn
