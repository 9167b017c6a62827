import WebAuthn.Authenticator.Attested
import WebAuthn.UserVerification

/-!
# Authenticator data

| relying party id hash (32) | flags (1) | sign count (4) | attested credential? | extensions? |

* `Flags` — the flag byte, bit by bit;
* `AuthenticatorData`, `AuthenticatorData.parse` — the layout and its reader. A section is there exactly when
  its flag is set, and nothing follows the last one;
* `AuthenticatorData.verifyRpId`, `verifyUserPresent`, `verifyUserVerification` — what a relying party checks
  about it.
-/

namespace WebAuthn

/-! ### Flags -/

structure Flags where
  byte : UInt8
  deriving DecidableEq

namespace Flags

def bit (flags : Flags) (index : Nat) : Bool :=
  flags.byte.toNat.testBit index

def userPresent (flags : Flags) : Bool := flags.bit 0

def userVerified (flags : Flags) : Bool := flags.bit 2

def backupEligible (flags : Flags) : Bool := flags.bit 3

def backupState (flags : Flags) : Bool := flags.bit 4

def hasAttested (flags : Flags) : Bool := flags.bit 6

def hasExtensions (flags : Flags) : Bool := flags.bit 7

def attestedBit : UInt8 := 0x40

def extensionsBit : UInt8 := 0x80

end Flags

/-! ### Layout -/

/-- What an authenticator says and signs. -/
structure AuthenticatorData where
  /-- The SHA-256 hash of the relying party id. -/
  rpIdHash : FixedBytes 32
  flags : Flags
  signCount : UInt32
  attested : Option AttestedCredential
  /-- The entries of the extension map. -/
  extensions : Option (List (Cbor.Value × Cbor.Value))
  deriving DecidableEq

def malformedData {α : Type} (reason : String) : Audited α :=
  .refuseWith .invalidAttestationObject .debug s!"malformed authenticator data -> {reason}"

namespace AuthenticatorData

/-- The most bytes that are read. -/
def maximumLength : Nat := 65536

/-- The attested credential section, present when its flag is set, and what follows it. -/
def parseAttested (flags : Flags) (bytes : Bytes) : Audited (Option AttestedCredential × Bytes) :=
  if flags.hasAttested then do
    let (attested, rest) ← AttestedCredential.parse bytes
    return (some attested, rest)
  else return (none, bytes)

/-- The extension section, present when its flag is set, and what follows it. -/
def parseExtensions (flags : Flags) (bytes : Bytes) :
    Audited (Option (List (Cbor.Value × Cbor.Value)) × Bytes) :=
  if flags.hasExtensions then
    match AttestedCredential.parseItem bytes with
    | .error error => malformedData error.message
    | .ok (.map entries, rest) => pure (some entries, rest)
    | .ok _ => malformedData "extensions are not a map"
  else pure (none, bytes)

/-- The sections behind the fixed header. -/
def parseSections (rpIdHash : FixedBytes 32) (flags : Flags) (signCount : UInt32) (bytes : Bytes) :
    Audited AuthenticatorData := do
  if flags.backupState && !flags.backupEligible then
    malformedData "backup state set without backup eligibility"
  else
    let (attested, rest) ← parseAttested flags bytes
    let (extensions, rest) ← parseExtensions flags rest
    if rest.isEmpty then return ⟨rpIdHash, flags, signCount, attested, extensions⟩
    else malformedData "trailing bytes after authenticator data"

/-- The authenticator data that the bytes are the whole of. -/
def parse (bytes : Bytes) : Audited AuthenticatorData :=
  if bytes.length > maximumLength then malformedData "authenticator data exceeds maximum length"
  else
    match FixedBytes.split? 32 bytes with
    | none => malformedData "authenticator data is truncated"
    | some (rpIdHash, rest) =>
      match FixedBytes.split? 1 rest with
      | none => malformedData "authenticator data is truncated"
      | some (flags, rest) =>
        match FixedBytes.split? 4 rest with
        | none => malformedData "authenticator data is truncated"
        | some (signCount, rest) =>
          parseSections rpIdHash ⟨UInt8.ofNat (Bytes.toNat flags.bytes)⟩
            (UInt32.ofNat (Bytes.toNat signCount.bytes)) rest

/-! ### Checks -/

/-- Fails unless the data is for the relying party id. -/
def verifyRpId (data : AuthenticatorData) (rpId : String) : Audited Unit :=
  .require (Bytes.same data.rpIdHash.bytes (sha256 (Utf8.encode rpId))) .rpIdMismatch

def verifyUserPresent (data : AuthenticatorData) : Audited Unit :=
  .require data.flags.userPresent .userPresenceRequired

def verifyUserVerification (data : AuthenticatorData) (level : UserVerification) : Audited Unit :=
  .require (level ≠ .required || data.flags.userVerified) .userVerificationRequired

end AuthenticatorData

end WebAuthn
