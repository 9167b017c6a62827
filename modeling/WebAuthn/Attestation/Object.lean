import WebAuthn.Authenticator.Data

/-!
# Attestation objects

* `AttestationObject` — what a registration hands over: authenticator data, and a statement about it in a
  named format. The bytes of the authenticator data are kept, because statements sign them;
* `AttestationObject.parse` — its reader;
* `AttestationObject.encode` — the data item with its three members in order.
-/

namespace WebAuthn

/-- Authenticator data with a statement about it. -/
structure AttestationObject where
  format : String
  rawData : Bytes
  data : AuthenticatorData
  statement : Option Cbor.Value
  deriving DecidableEq

namespace AttestationObject

def parseFormat (members : List (Cbor.Value × Cbor.Value)) : Audited String :=
  match Cbor.Value.lookupText "fmt" members with
  | some (.text format) =>
    if format = "" then malformedAttestation "missing or invalid fmt" else pure format
  | _ => malformedAttestation "missing or invalid fmt"

def parseRawData (members : List (Cbor.Value × Cbor.Value)) : Audited Bytes :=
  match Cbor.Value.lookupText "authData" members with
  | some (.bytes content) => pure content
  | _ => malformedAttestation "missing or invalid authData"

/-- The statement of the members of an attestation object, a map if it is there. -/
def parseStatement (members : List (Cbor.Value × Cbor.Value)) : Audited (Option Cbor.Value) :=
  match Cbor.Value.lookupText "attStmt" members with
  | some (.map statement) => pure (some (.map statement))
  | some _ => malformedAttestation "attStmt is not a map"
  | none => pure none

def ofMembers (members : List (Cbor.Value × Cbor.Value)) : Audited AttestationObject := do
  let format ← parseFormat members
  let rawData ← parseRawData members
  let statement ← parseStatement members
  let data ← AuthenticatorData.parse rawData
  return ⟨format, rawData, data, statement⟩

/-- The attestation object that the bytes are the whole of. -/
def parse (bytes : Bytes) : Audited AttestationObject :=
  match Cbor.decode {} bytes with
  | .ok (.map members) => ofMembers members
  | .ok _ => malformedAttestation "attestation object is not a map"
  | .error error => malformedAttestation error.message

def attested (object : AttestationObject) : Audited AttestedCredential :=
  match object.data.attested with
  | some attested => pure attested
  | none => malformedAttestation "registration without attested credential data"

/-- Whether there is no statement, or one without entries. -/
def statementIsEmpty (object : AttestationObject) : Bool :=
  match object.statement with
  | none => true
  | some (.map entries) => entries.isEmpty
  | some _ => false

/-- The members of an attestation object, in the order in which they are written. -/
def members (format : String) (rawData : Bytes) (statement : Cbor.Value) : List (Cbor.Value × Cbor.Value) :=
  [(.text "fmt", .text format), (.text "attStmt", statement), (.text "authData", .bytes rawData)]

def encode (format : String) (rawData : Bytes) (statement : Cbor.Value) : Bytes :=
  Cbor.encode (.map (members format rawData statement))

end AttestationObject

end WebAuthn
