/-!
# Why a ceremony fails

* `Failure` — one constructor for each cause that a relying party distinguishes;
* `Failure.message` — its wording;
* `Failure.suspendsCredential` — whether the credential in use should be suspended.
-/

namespace WebAuthn

inductive ClientDataPart where
  | encoding
  | json
  | type
  | challenge
  | origin
  | crossOrigin
  deriving DecidableEq, Repr

def ClientDataPart.name : ClientDataPart → String
  | .encoding => "encoding"
  | .json => "json"
  | .type => "type"
  | .challenge => "challenge"
  | .origin => "origin"
  | .crossOrigin => "crossOrigin"

/-- Why a ceremony, or a step of one, fails. -/
inductive Failure where
  | invalidClientData (part : ClientDataPart)
  | invalidAttestationObject
  | rpIdMismatch
  | userPresenceRequired
  | userVerificationRequired
  | unsupportedAttestationFormat
  | attestationVerificationFailed
  | unknownCredential
  | signatureVerificationFailed
  | possibleCloneDetected
  | invalidConfiguration
  | challengeRejected
  | credentialConflict
  | storeUnavailable
  deriving DecidableEq, Repr

namespace Failure

def message : Failure → String
  | .invalidClientData part => s!"InvalidClientDataError ({part.name})"
  | .invalidAttestationObject => "InvalidAttestationObjectError"
  | .rpIdMismatch => "RpIdMismatchError"
  | .userPresenceRequired => "UserPresenceRequiredError"
  | .userVerificationRequired => "UserVerificationRequiredError"
  | .unsupportedAttestationFormat => "UnsupportedAttestationFormatError"
  | .attestationVerificationFailed => "AttestationVerificationFailedError"
  | .unknownCredential => "UnknownCredentialError"
  | .signatureVerificationFailed => "SignatureVerificationFailedError"
  | .possibleCloneDetected => "PossibleCloneDetectedError"
  | .invalidConfiguration => "InvalidConfigurationError"
  | .challengeRejected => "ChallengeRejectedError"
  | .credentialConflict => "CredentialConflictError"
  | .storeUnavailable => "StoreUnavailableError"

/-- Only a sign count that did not grow calls for suspending the credential. -/
def suspendsCredential : Failure → Bool
  | .possibleCloneDetected => true
  | _ => false

end Failure

end WebAuthn
