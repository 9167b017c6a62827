import WebAuthn.Cose.Key
import WebAuthn.Text.Set
import WebAuthn.Uuid

/-!
# Credentials

* `Credential` — a registered credential and its owner;
* `Credential.restore` — a credential from its fields, as they are kept somewhere;
* `Credential.userHandle` — what authenticators know the owner by;
* `Credential.withSignCount` — the same credential after a use;
* `Credential.Recounted`, `Credential.recounted_iff` — what that is, field by field.
-/

namespace WebAuthn

/-- A registered credential. Only its sign count ever changes. -/
structure Credential where
  id : Bytes
  publicKey : Cose.Key
  signCount : UInt32
  transports : TextSet
  owner : Uuid
  attestationFormat : String
  deriving DecidableEq

namespace Credential

/-- A credential from the fields of one that was registered before. -/
def restore (id : Bytes) (publicKey : Cose.Key) (signCount : UInt32) (transports : TextSet) (owner : Uuid)
    (attestationFormat : String) : Credential :=
  ⟨id, publicKey, signCount, transports, owner, attestationFormat⟩

/-- The handle of the owner: the bytes of the owner's identifier. -/
def userHandle (credential : Credential) : Bytes :=
  credential.owner.bytes

def withSignCount (credential : Credential) (signCount : UInt32) : Credential :=
  { credential with signCount }

/-- The record has the sign count, and whatever else a registration has fixed it shares with the credential. -/
structure Recounted (record credential : Credential) (signCount : UInt32) : Prop where
  signCount_eq : record.signCount = signCount
  id_eq : record.id = credential.id
  publicKey_eq : record.publicKey = credential.publicKey
  transports_eq : record.transports = credential.transports
  owner_eq : record.owner = credential.owner
  attestationFormat_eq : record.attestationFormat = credential.attestationFormat

section Recounted

variable {record earlier credential : Credential} {signCount before : UInt32}

theorem Recounted.refl (credential : Credential) : credential.Recounted credential credential.signCount :=
  ⟨rfl, rfl, rfl, rfl, rfl, rfl⟩

theorem Recounted.symm (h : record.Recounted credential signCount) :
    credential.Recounted record credential.signCount :=
  ⟨rfl, h.id_eq.symm, h.publicKey_eq.symm, h.transports_eq.symm, h.owner_eq.symm, h.attestationFormat_eq.symm⟩

theorem Recounted.trans (h : record.Recounted earlier signCount) (he : earlier.Recounted credential before) :
    record.Recounted credential signCount :=
  ⟨h.signCount_eq, h.id_eq.trans he.id_eq, h.publicKey_eq.trans he.publicKey_eq,
    h.transports_eq.trans he.transports_eq, h.owner_eq.trans he.owner_eq,
    h.attestationFormat_eq.trans he.attestationFormat_eq⟩

theorem recounted_withSignCount (credential : Credential) (signCount : UInt32) :
    (credential.withSignCount signCount).Recounted credential signCount :=
  ⟨rfl, rfl, rfl, rfl, rfl, rfl⟩

theorem recounted_iff :
    record.Recounted credential signCount ↔ record = credential.withSignCount signCount := by
  constructor
  · intro h
    obtain ⟨id, publicKey, count, transports, owner, attestationFormat⟩ := record
    obtain ⟨rfl, rfl, rfl, rfl, rfl, rfl⟩ := h
    rfl
  · rintro rfl
    exact credential.recounted_withSignCount signCount

end Recounted

end Credential

end WebAuthn
