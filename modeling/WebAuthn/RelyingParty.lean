import WebAuthn.Assertion
import WebAuthn.Exchange
import WebAuthn.Policy.Validation
import WebAuthn.Registration
import WebAuthn.Response

/-!
# The relying party

* `RelyingParty`, `RelyingParty.establish` — a valid policy with the statement formats that are trusted;
* `RelyingParty.createCredential`, `authenticateCredential` — the checks of the two ceremonies, for a challenge that
  was taken back already;
* `RelyingParty.register`, `RelyingParty.authenticate` — the whole ceremonies. The challenge is taken back before the
  message is looked at, and the store is written to last.
-/

namespace WebAuthn

/-- A policy with the statement formats that are trusted. -/
structure RelyingParty where
  policy : Policy
  registry : StatementRegistry

namespace RelyingParty

/-- The relying party of a policy, which has to be valid. -/
def establish (policy : Policy) (registry : StatementRegistry) : Audited RelyingParty := do
  policy.validate
  let origins := Quoted.list policy.allowedOrigins
  let formats := Quoted.list registry.formats
  .note .info
    s!"relying party {policy.rpId} | origins {origins} | attestation formats {formats}"
  return ⟨policy, registry⟩

/-- The relying party that trusts one more statement format, or another verifier of it. -/
def registerVerifier (party : RelyingParty) (format : String) (verifier : StatementVerifier) :
    Audited RelyingParty := do
  let registry ← party.registry.register format verifier
  return { party with registry }

/-! ### Checks -/

def createCredential (party : RelyingParty) (registration : Registration) (challenge : Challenge)
    (transports : TextSet) (owner : Uuid) : Audited Credential :=
  registration.credential party.policy party.registry challenge transports owner

def authenticateCredential (party : RelyingParty) (assertion : Assertion) (credential : Credential)
    (challenge : Challenge) : Audited Credential :=
  assertion.credential party.policy credential challenge

/-! ### Messages -/

/-- The registration that a message carries. -/
def registrationOf (response : RegistrationResponse) : Audited Registration := do
  let clientDataJson ← response.clientDataBytes
  let attestationObject ← response.attestationBytes
  return ⟨clientDataJson, attestationObject⟩

/-- The credential id and the assertion that a message carries. -/
def assertionOf (response : AuthenticationResponse) : Audited (Bytes × Assertion) := do
  let id ← response.credentialIdBytes
  let clientDataJson ← response.clientDataBytes
  let authenticatorData ← response.authenticatorDataBytes
  let signature ← response.signatureBytes
  let userHandle ← response.userHandleBytes
  return (id, ⟨clientDataJson, authenticatorData, signature, some id, userHandle⟩)

def registrationFailedLine (owner : Uuid) (failure : Failure) : LogEntry :=
  ⟨.warn, s!"registration failed for {owner.toText} -> {failure.message}"⟩

def authenticationFailedLine (owner : Uuid) (failure : Failure) : LogEntry :=
  let text := s!"authentication failed for {owner.toText} -> {failure.message}"
  if failure.suspendsCredential then ⟨.error, text ++ " | credential should be suspended"⟩
  else ⟨.warn, text⟩

/-! ### Ceremonies -/

/-- Registers the credential that a message attests for a challenge. -/
def register (party : RelyingParty) (response : RegistrationResponse) (challenge : Challenge)
    (owner : Uuid) : Exchange Credential := do
  -- from here on the challenge is spent, whatever else fails
  let challenge ← Exchange.consume challenge
  let registration ← Exchange.ofAudited (registrationOf response)
  let credential ← Exchange.ofAudited <|
    (party.createCredential registration challenge response.transportSet owner).onFailure
      fun failure => [registrationFailedLine owner failure]
  Exchange.insert credential
  return credential

/-- Uses the credential that a message names and writes its new sign count. -/
def authenticate (party : RelyingParty) (response : AuthenticationResponse) (challenge : Challenge) :
    Exchange Credential := do
  let challenge ← Exchange.consume challenge
  let (id, assertion) ← Exchange.ofAudited (assertionOf response)
  let stored ← Exchange.find id
  let credential ← Exchange.ofAudited <|
    (party.authenticateCredential assertion stored challenge).onFailure
      fun failure => [authenticationFailedLine stored.owner failure]
  -- this is refused unless the stored count is still the one that was read
  Exchange.updateSignCount credential.id stored.signCount credential.signCount
  return credential

end RelyingParty

end WebAuthn
