import WebAuthn.Audited
import WebAuthn.Credential

/-!
# The registered credentials

* `CredentialStore` — the credentials by their ids;
* `CredentialStore.handle` — the answer to a request, the store after it, and the lines written. An id is never taken
  twice, and a sign count is written only while the stored one is the expected one.
-/

namespace WebAuthn

inductive CredentialRequest where
  | insert (credential : Credential)
  | find (id : Bytes)
  | updateSignCount (id : Bytes) (expected new : UInt32)
  | remove (id : Bytes)
  deriving DecidableEq

inductive CredentialResponse where
  | credential (credential : Credential)
  | stored
  | notFound
  | conflict
  deriving DecidableEq

/-- The registered credentials, each under an id. -/
structure CredentialStore where
  credentials : List (Bytes × Credential)

namespace CredentialStore

def empty : CredentialStore := ⟨[]⟩

def find? (store : CredentialStore) (id : Bytes) : Option Credential :=
  (store.credentials.find? fun entry => entry.1 = id).map Prod.snd

def insert (store : CredentialStore) (credential : Credential) : CredentialStore :=
  ⟨(credential.id, credential) :: store.credentials⟩

/-- The credential rebuilt with another sign count. All other fields are carried over one by one. -/
def rebuild (credential : Credential) (signCount : UInt32) : Credential :=
  .restore credential.id credential.publicKey signCount credential.transports credential.owner
    credential.attestationFormat

def setSignCount (store : CredentialStore) (id : Bytes) (signCount : UInt32) : CredentialStore :=
  ⟨store.credentials.map fun entry =>
    if entry.1 = id then (entry.1, rebuild entry.2 signCount) else entry⟩

def erase (store : CredentialStore) (id : Bytes) : CredentialStore :=
  ⟨store.credentials.filter fun entry => entry.1 ≠ id⟩

def staleLine (owner : Uuid) (expected stored : UInt32) : LogEntry :=
  ⟨.warn, s!"credentials | stale sign count update for {owner.toText} " ++
    s!"(expected {expected.toNat}, stored {stored.toNat})"⟩

/-- The answer to a request, the store after it and the lines written. -/
def handle (store : CredentialStore) :
    CredentialRequest → CredentialResponse × List LogEntry × CredentialStore
  | .insert credential =>
    match store.find? credential.id with
    | some _ =>
      (.conflict, [⟨.warn, "credentials | duplicate credential id rejected"⟩], store)
    | none => (.stored, [], store.insert credential)
  | .find id =>
    match store.find? id with
    | some credential => (.credential credential, [], store)
    | none => (.notFound, [], store)
  | .updateSignCount id expected new =>
    match store.find? id with
    | none => (.notFound, [], store)
    | some credential =>
      -- that the new count is more is for the caller to check
      if credential.signCount = expected then (.stored, [], store.setSignCount id new)
      else (.conflict, [staleLine credential.owner expected credential.signCount], store)
  | .remove id =>
    match store.find? id with
    | some _ => (.stored, [], store.erase id)
    | none => (.notFound, [], store)

end CredentialStore

end WebAuthn
