import WebAuthn.Attestation.Object

/-!
# Attestation statements

* `StatementVerifier` — what checks the statements of one format;
* `StatementVerifier.none` — the format without proof: the statement has to be empty;
* `PackedStatement`, `StatementVerifier.packedSelf` — the format signed with the new credential's own key.
  Statements that carry certificates are not trusted.
-/

namespace WebAuthn

/-- The check of an attestation object and the client data that came with it. -/
abbrev StatementVerifier := AttestationObject → (clientDataJson : Bytes) → Audited Unit

/-- The name of the format without proof. -/
def StatementVerifier.noneName : String := "none"

def StatementVerifier.packedName : String := "packed"

/-- Accepts an empty statement, whatever the rest. -/
def StatementVerifier.none : StatementVerifier := fun object _ =>
  if object.statementIsEmpty then pure ()
  else .refuseWith .attestationVerificationFailed .warn
    "none attestation carried a non empty statement"

/-! ### Packed statements -/

structure PackedStatement where
  algorithm : Int
  signature : Bytes
  certificates : Option (List Bytes)
  deriving DecidableEq

namespace PackedStatement

def failed {α : Type} (reason : String) : Audited α :=
  .refuseWith .attestationVerificationFailed .warn
    s!"packed attestation verification failed -> {reason}"

/-- The algorithm of a statement, an integer of 64 bits. -/
def parseAlgorithm (members : List (Cbor.Value × Cbor.Value)) : Audited Int :=
  match Cbor.Value.lookupText "alg" members with
  | some (.int n) =>
    if Int64.minValue.toInt ≤ n ∧ n ≤ Int64.maxValue.toInt then pure n
    else failed "packed alg out of range"
  | _ => failed "packed statement is missing alg"

def parseSignature (members : List (Cbor.Value × Cbor.Value)) : Audited Bytes :=
  match Cbor.Value.lookupText "sig" members with
  | some (.bytes content) => pure content
  | _ => failed "packed statement is missing sig"

def parseCertificate : Cbor.Value → Audited Bytes
  | .bytes content => pure content
  | _ => failed "packed x5c entry is not a byte string"

/-- The certificate chain of a statement, if it has one. -/
def parseCertificates (members : List (Cbor.Value × Cbor.Value)) : Audited (Option (List Bytes)) :=
  match Cbor.Value.lookupText "x5c" members with
  | some (.array chain) => some <$> chain.mapM parseCertificate
  | some _ => failed "packed x5c is not an array"
  | none => pure none

def parse : Option Cbor.Value → Audited PackedStatement
  | some (.map members) => do
    let algorithm ← parseAlgorithm members
    let signature ← parseSignature members
    let certificates ← parseCertificates members
    return ⟨algorithm, signature, certificates⟩
  | _ => failed "packed statement is missing"

end PackedStatement

/-- Accepts a packed statement without certificates whose signature, under the algorithm of the new
credential's key, belongs to that key and signs the authenticator data and the client data. -/
def StatementVerifier.packedSelf : StatementVerifier := fun object clientDataJson => do
  let statement ← PackedStatement.parse object.statement
  if statement.certificates.isSome then
    PackedStatement.failed "packed full attestation is not trusted"
  else
    let attested ← object.attested
    if statement.algorithm ≠ attested.publicKey.algorithm.identifier then
      PackedStatement.failed "packed alg does not match the credential key"
    else
      let signed := attested.publicKey.verify statement.signature object.rawData (sha256 clientDataJson)
      (signed.failingWith .attestationVerificationFailed).onFailure fun _ =>
        [⟨.warn, "packed attestation verification failed -> packed self attestation signature is invalid"⟩]

end WebAuthn
