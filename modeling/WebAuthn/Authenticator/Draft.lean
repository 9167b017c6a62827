import WebAuthn.Authenticator.Data

/-!
# Writing authenticator data

* `AuthenticatorDraft` — authenticator data about to be written; the flags of the two sections follow from what is
  there;
* `AuthenticatorDraft.encode` — its bytes.
-/

namespace WebAuthn

/-- Authenticator data about to be written. -/
structure AuthenticatorDraft where
  rpId : String
  flags : UInt8 := 0
  signCount : UInt32 := 0
  /-- The model of the authenticator. -/
  aaguid : FixedBytes 16 := .zeros
  /-- The id and the key of a new credential. -/
  attested : Option (Bytes × Cose.Key) := none
  extensions : Option Cbor.Value := none

namespace AuthenticatorDraft

def flagByte (draft : AuthenticatorDraft) : UInt8 :=
  draft.flags |||
    (if draft.attested.isSome then Flags.attestedBit else 0) |||
    (if draft.extensions.isSome then Flags.extensionsBit else 0)

def attestedBytes (draft : AuthenticatorDraft) : Bytes :=
  match draft.attested with
  | some (id, key) => AttestedCredential.encode ⟨draft.aaguid, id, key⟩
  | none => []

def extensionBytes (draft : AuthenticatorDraft) : Bytes :=
  match draft.extensions with
  | some value => Cbor.encode value
  | none => []

def encode (draft : AuthenticatorDraft) : Bytes :=
  sha256 (Utf8.encode draft.rpId) ++ draft.flagByte :: (Bytes.ofNat 4 draft.signCount.toNat ++
    (draft.attestedBytes ++ draft.extensionBytes))

end AuthenticatorDraft

end WebAuthn
