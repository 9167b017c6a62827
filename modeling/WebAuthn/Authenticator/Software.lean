import WebAuthn.Assertion
import WebAuthn.Attestation.Object
import WebAuthn.Authenticator.Draft
import WebAuthn.Authenticator.KeyPair
import WebAuthn.Registration
import WebAuthn.Response

/-!
# A software authenticator

The other side of both ceremonies: it makes registrations without proof and assertions, with real signatures.

* `SoftwareAuthenticator` — one credential, together with the page that uses it;
* `SoftwareAuthenticator.registrationDraft`, `assertionDraft` — the authenticator data that it writes;
* `SoftwareAuthenticator.register`, `assert` — what it presents for a challenge;
* `SoftwareAuthenticator.registrationResponse`, `authenticationResponse` — the messages that the browser sends.
-/

namespace WebAuthn

/-- The members of the client data that a page sends, in alphabetical order. -/
def clientDataFields (type : String) (challenge : Bytes) (origin : String) : Json.Record :=
  [("challenge", .ofString (Base64Url.encode challenge)), ("crossOrigin", .bool false),
    ("origin", .ofString origin), ("type", .ofString type)]

def clientDataText (type : String) (challenge : Bytes) (origin : String) : Bytes :=
  Json.render (.ofFields (clientDataFields type challenge origin))

/-- An authenticator with one credential, and the page that uses it. -/
structure SoftwareAuthenticator where
  rpId : String
  origin : String
  keyPair : KeyPair
  credentialId : Bytes
  userHandle : Option Bytes
  flags : UInt8

namespace SoftwareAuthenticator

/-- A new authenticator, which reports that the user was present and verified. -/
def fresh (rpId origin : String) (keyPair : KeyPair) (credentialId : FixedBytes 32) :
    SoftwareAuthenticator :=
  ⟨rpId, origin, keyPair, credentialId.bytes, none, 0x05⟩

/-- The authenticator data without sections. -/
def draft (authenticator : SoftwareAuthenticator) : AuthenticatorDraft :=
  { rpId := authenticator.rpId, flags := authenticator.flags }

/-- The authenticator data of a registration. -/
def registrationDraft (authenticator : SoftwareAuthenticator) : AuthenticatorDraft :=
  { authenticator.draft with
    attested := some (authenticator.credentialId, authenticator.keyPair.publicKey) }

/-- The authenticator data of a use. -/
def assertionDraft (authenticator : SoftwareAuthenticator) (signCount : UInt32) : AuthenticatorDraft :=
  { authenticator.draft with signCount }

def register (authenticator : SoftwareAuthenticator) (challenge : Challenge) : Registration :=
  { clientDataJson := clientDataText "webauthn.create" challenge.bytes authenticator.origin
    attestationObject := AttestationObject.encode "none" authenticator.registrationDraft.encode (.map []) }

/-- An assertion about given client data and authenticator data. -/
def signAssertion (authenticator : SoftwareAuthenticator) (salt : FixedBytes 32)
    (clientDataJson authenticatorData : Bytes) : Assertion :=
  { clientDataJson
    authenticatorData
    signature := authenticator.keyPair.sign salt (authenticatorData ++ sha256 clientDataJson)
    credentialId := some authenticator.credentialId
    userHandle := authenticator.userHandle }

def assert (authenticator : SoftwareAuthenticator) (salt : FixedBytes 32) (challenge : Challenge)
    (signCount : UInt32) : Assertion :=
  authenticator.signAssertion salt
    (clientDataText "webauthn.get" challenge.bytes authenticator.origin)
    (authenticator.assertionDraft signCount).encode

/-- The message that ends a registration. -/
def registrationResponse (authenticator : SoftwareAuthenticator) (challenge : Challenge) :
    RegistrationResponse :=
  let registration := authenticator.register challenge
  let id := Base64Url.encode authenticator.credentialId
  { id
    rawId := id
    clientDataJson := Base64Url.encode registration.clientDataJson
    attestationObject := Base64Url.encode registration.attestationObject
    transports := ["internal"]
    type := publicKeyType }

/-- The message that ends an authentication. -/
def authenticationResponse (authenticator : SoftwareAuthenticator) (salt : FixedBytes 32)
    (challenge : Challenge) (signCount : UInt32) : AuthenticationResponse :=
  let assertion := authenticator.assert salt challenge signCount
  let id := Base64Url.encode authenticator.credentialId
  { id
    rawId := id
    clientDataJson := Base64Url.encode assertion.clientDataJson
    authenticatorData := Base64Url.encode assertion.authenticatorData
    signature := Base64Url.encode assertion.signature
    userHandle := assertion.userHandle.map Base64Url.encode
    type := publicKeyType }

end SoftwareAuthenticator

end WebAuthn
