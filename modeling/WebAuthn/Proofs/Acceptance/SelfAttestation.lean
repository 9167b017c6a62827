import WebAuthn.Attestation.Statement
import WebAuthn.Proofs.Acceptance.Assertion
import WebAuthn.Proofs.Acceptance.Registration
import WebAuthn.Proofs.Cbor.Entries
import WebAuthn.Proofs.Authenticator.Software
import WebAuthn.Proofs.Layout.AttestationObject

/-!
# Packed self attestation

A packed statement without certificates is signed with the key that it is about.

* `PackedStatement.Presents`, `Acceptable` — what has to stand in a statement before the key is looked at;
* `AttestationObject.SelfSigned` — the key of the object has signed its authenticator data and the client data;
* `PackedStatement.parse_eq_ok` — what is read from a statement, from one lemma for each of its members;
* `AttestationObject.packedSelf_of_not_acceptable`, `packedSelf_of_no_credential`, `packedSelf_of_credential` — the ways
  to end, by what the statement presents and whether there is a key;
* `AttestationObject.self_attestation_proves_possession` — the same as a statement about every object that is read.
-/

namespace WebAuthn

open Audited

namespace PackedStatement

variable {members : List (Cbor.Value × Cbor.Value)} {statement : Option Cbor.Value} {algorithm : Int}
  {signature : Bytes}

/-- The statement is a map with this algorithm and this signature, and has no certificates in any form. -/
def Presents (statement : Option Cbor.Value) (algorithm : Int) (signature : Bytes) : Prop :=
  ∃ members, statement = some (.map members) ∧
    (.text "alg", .int algorithm) ∈ members ∧ (.text "sig", .bytes signature) ∈ members ∧
    ∀ value, (.text "x5c", value) ∉ members

/-- The statement presents a signature under an algorithm number of 64 bits. -/
def Acceptable (statement : Option Cbor.Value) : Prop :=
  ∃ algorithm signature, Presents statement algorithm signature ∧
    Int64.minValue.toInt ≤ algorithm ∧ algorithm ≤ Int64.maxValue.toInt

/-! ### Members -/

theorem parseAlgorithm_eq_ok :
    (parseAlgorithm members).outcome = .ok algorithm ↔
      Cbor.Value.lookupText "alg" members = some (.int algorithm) ∧
        Int64.minValue.toInt ≤ algorithm ∧ algorithm ≤ Int64.maxValue.toInt := by
  unfold parseAlgorithm
  constructor
  · intro h
    split at h
    · next n hn =>
      split at h
      · next hrange =>
        cases h
        exact ⟨hn, hrange⟩
      · cases h
    · cases h
  · intro h
    obtain ⟨hn, hrange⟩ := h
    rw [hn]
    show (if _ then pure algorithm else failed _ : Audited Int).outcome = _
    rw [if_pos hrange]
    rfl

theorem parseSignature_eq_ok :
    (parseSignature members).outcome = .ok signature ↔
      Cbor.Value.lookupText "sig" members = some (.bytes signature) := by
  unfold parseSignature
  constructor
  · intro h
    split at h
    · next content hcontent =>
      cases h
      exact hcontent
    · cases h
  · intro h
    rw [h]
    rfl

/-- A statement without certificates is one without the member for them. -/
theorem parseCertificates_eq_ok_none :
    (parseCertificates members).outcome = .ok none ↔ Cbor.Value.lookupText "x5c" members = none := by
  unfold parseCertificates
  constructor
  · intro h
    split at h
    · obtain ⟨_, _, h⟩ := outcome_bind_ok.1 h
      cases h
    · cases h
    · next hnone => exact hnone
  · intro h
    rw [h]
    rfl

/-! ### Statements -/

/-- A statement with distinct members is read as the algorithm and the signature that it presents. -/
theorem parse_eq_ok
    (hdistinct : ∀ members, statement = some (.map members) → (members.map Prod.fst).Nodup) :
    (parse statement).outcome = .ok ⟨algorithm, signature, none⟩ ↔
      Presents statement algorithm signature ∧
        Int64.minValue.toInt ≤ algorithm ∧ algorithm ≤ Int64.maxValue.toInt := by
  unfold parse
  constructor
  · intro h
    split at h
    · next members =>
      obtain ⟨_, halgorithm, h⟩ := outcome_bind_ok.1 h
      obtain ⟨_, hsignature, h⟩ := outcome_bind_ok.1 h
      obtain ⟨_, hcertificates, h⟩ := outcome_bind_ok.1 h
      cases h
      obtain ⟨halgorithm, hrange⟩ := parseAlgorithm_eq_ok.1 halgorithm
      exact ⟨⟨members, rfl, Cbor.Value.mem_of_lookup halgorithm,
        Cbor.Value.mem_of_lookup (parseSignature_eq_ok.1 hsignature),
        Cbor.Value.lookup_eq_none.1 (parseCertificates_eq_ok_none.1 hcertificates)⟩, hrange⟩
    · cases h
  · intro h
    obtain ⟨⟨members, rfl, halgorithm, hsignature, hcertificates⟩, hrange⟩ := h
    have hmembers := hdistinct members rfl
    refine outcome_bind_ok.2 ⟨algorithm, parseAlgorithm_eq_ok.2 ⟨?_, hrange⟩, ?_⟩
    · exact (Cbor.Value.lookup_eq_some hmembers).2 halgorithm
    refine outcome_bind_ok.2 ⟨signature, parseSignature_eq_ok.2 ?_, ?_⟩
    · exact (Cbor.Value.lookup_eq_some hmembers).2 hsignature
    exact outcome_bind_ok.2 ⟨none, parseCertificates_eq_ok_none.2
      (Cbor.Value.lookup_eq_none.2 hcertificates), rfl⟩

theorem failsOnlyWith_failed {α : Type} (reason : String) :
    FailsOnlyWith .attestationVerificationFailed (failed reason : Audited α) :=
  failsOnlyWith_refuseWith _ _

theorem failsOnlyWith_parseCertificates (members : List (Cbor.Value × Cbor.Value)) :
    FailsOnlyWith .attestationVerificationFailed (parseCertificates members) := by
  have hone : ∀ item, FailsOnlyWith .attestationVerificationFailed (parseCertificate item) := by
    intro item
    unfold parseCertificate
    split
    · exact failsOnlyWith_pure _
    · exact failsOnlyWith_failed _
  have hchain : ∀ chain : List Cbor.Value,
      FailsOnlyWith .attestationVerificationFailed (chain.mapM parseCertificate) := by
    intro chain
    induction chain with
    | nil => exact failsOnlyWith_pure _
    | cons item rest ih =>
      rw [List.mapM_cons]
      exact (hone item).bind fun _ => ih.bind fun _ => failsOnlyWith_pure _
  unfold parseCertificates
  split
  · exact (hchain _).map _
  · exact failsOnlyWith_failed _
  · exact failsOnlyWith_pure _

/-- Reading a statement has one way to fail. -/
theorem failsOnlyWith_parse (statement : Option Cbor.Value) :
    FailsOnlyWith .attestationVerificationFailed (parse statement) := by
  have halgorithm : ∀ members, FailsOnlyWith .attestationVerificationFailed (parseAlgorithm members) := by
    intro members
    unfold parseAlgorithm
    split
    · split
      · exact failsOnlyWith_pure _
      · exact failsOnlyWith_failed _
    · exact failsOnlyWith_failed _
  have hsignature : ∀ members, FailsOnlyWith .attestationVerificationFailed (parseSignature members) := by
    intro members
    unfold parseSignature
    split
    · exact failsOnlyWith_pure _
    · exact failsOnlyWith_failed _
  unfold parse
  split
  · exact (halgorithm _).bind fun _ => (hsignature _).bind fun _ =>
      (failsOnlyWith_parseCertificates _).bind fun _ => failsOnlyWith_pure _
  · exact failsOnlyWith_failed _

end PackedStatement

/-! ### The verifier -/

/-- Registered numbers of algorithms have 64 bits. -/
theorem Cose.Algorithm.identifier_bounds (algorithm : Cose.Algorithm) :
    Int64.minValue.toInt ≤ algorithm.identifier ∧ algorithm.identifier ≤ Int64.maxValue.toInt := by
  cases algorithm <;> decide

namespace AttestationObject

open StatementVerifier (packedSelf)

variable {object : AttestationObject} {clientDataJson : Bytes}

/-- The statement of the object presents a signature under the algorithm of its own key, and the signature is one of
this key for the bytes of the authenticator data followed by the hash of the client data. -/
def SelfSigned (object : AttestationObject) (clientDataJson : Bytes) : Prop :=
  ∃ attested signature, object.data.attested = some attested ∧
    PackedStatement.Presents object.statement attested.publicKey.algorithm.identifier signature ∧
    (attested.publicKey.verifies signature (object.rawData ++ sha256 clientDataJson)).outcome = .ok true

section Outcomes

variable
  (hdistinct : ∀ members, object.statement = some (.map members) → (members.map Prod.fst).Nodup)
include hdistinct

/-- A statement that presents nothing is the end of it. -/
theorem packedSelf_of_not_acceptable (h : ¬ PackedStatement.Acceptable object.statement) :
    (packedSelf object clientDataJson).outcome = .error .attestationVerificationFailed := by
  unfold packedSelf
  obtain ⟨⟨algorithm, signature, certificates⟩, hparse⟩ | hfails :=
    (PackedStatement.failsOnlyWith_parse object.statement).outcome_eq
  · rw [outcome_bind_of_ok hparse]
    cases certificates with
    | none => exact absurd ⟨algorithm, signature, (PackedStatement.parse_eq_ok hdistinct).1 hparse⟩ h
    | some certificates => rfl
  · rw [outcome_bind, hfails]
    rfl

/-- Without a credential there is no key that could have signed. -/
theorem packedSelf_of_no_credential (h : PackedStatement.Acceptable object.statement)
    (hnone : object.data.attested = none) :
    (packedSelf object clientDataJson).outcome = .error .invalidAttestationObject := by
  obtain ⟨algorithm, signature, hacceptable⟩ := h
  have hmissing : object.attested.outcome = .error .invalidAttestationObject := by
    unfold AttestationObject.attested
    rw [hnone]
    rfl
  unfold packedSelf
  rw [outcome_bind_of_ok ((PackedStatement.parse_eq_ok hdistinct).2 hacceptable)]
  show (object.attested >>= _).outcome = _
  rw [outcome_bind, hmissing]
  rfl

/-- With a credential it is for its key to say. -/
theorem packedSelf_of_credential {attested : AttestedCredential} {algorithm : Int} {signature : Bytes}
    (h : PackedStatement.Presents object.statement algorithm signature ∧
      Int64.minValue.toInt ≤ algorithm ∧ algorithm ≤ Int64.maxValue.toInt)
    (hsome : object.data.attested = some attested) :
    ((packedSelf object clientDataJson).outcome = .ok () ↔
      algorithm = attested.publicKey.algorithm.identifier ∧
        (attested.publicKey.verifies signature (object.rawData ++ sha256 clientDataJson)).outcome =
          .ok true) ∧
    FailsOnlyWith .attestationVerificationFailed (packedSelf object clientDataJson) := by
  have hattested : object.attested.outcome = .ok attested := by
    unfold AttestationObject.attested
    rw [hsome]
    rfl
  -- reason and lines are those of a failure, and no part of the outcome
  obtain ⟨reason, lines, hrest⟩ : ∃ reason lines, (packedSelf object clientDataJson).outcome =
      (if algorithm ≠ attested.publicKey.algorithm.identifier then PackedStatement.failed reason
      else
        ((attested.publicKey.verify signature object.rawData (sha256 clientDataJson)).failingWith
          .attestationVerificationFailed).onFailure lines).outcome := by
    unfold packedSelf
    rw [outcome_bind_of_ok ((PackedStatement.parse_eq_ok hdistinct).2 h)]
    exact ⟨_, _, outcome_bind_of_ok hattested _⟩
  unfold FailsOnlyWith
  rw [hrest]
  by_cases halgorithm : algorithm = attested.publicKey.algorithm.identifier
  · rw [if_neg (not_not_intro halgorithm), outcome_onFailure, outcome_failingWith_ok]
    refine ⟨?_, failsOnlyWith_failingWith _⟩
    exact ⟨fun hverified => ⟨halgorithm, (Assertion.verify_eq_ok _ _ _ _).2 hverified⟩,
      fun hboth => (Assertion.verify_eq_ok _ _ _ _).1 hboth.2⟩
  · rw [if_pos halgorithm]
    exact ⟨⟨nofun, fun hboth => absurd hboth.1 halgorithm⟩, PackedStatement.failsOnlyWith_failed _⟩

/-- The verifier accepts what the key of the object has signed. -/
theorem packedSelf_eq_ok :
    (packedSelf object clientDataJson).outcome = .ok () ↔ object.SelfSigned clientDataJson := by
  constructor
  · intro hok
    by_cases hacceptable : PackedStatement.Acceptable object.statement
    · cases hattested : object.data.attested with
      | none =>
        rw [packedSelf_of_no_credential hdistinct hacceptable hattested] at hok
        cases hok
      | some attested =>
        obtain ⟨algorithm, signature, hpresents⟩ := hacceptable
        obtain ⟨rfl, hverifies⟩ := (packedSelf_of_credential hdistinct hpresents hattested).1.1 hok
        exact ⟨attested, signature, hattested, hpresents.1, hverifies⟩
    · rw [packedSelf_of_not_acceptable hdistinct hacceptable] at hok
      cases hok
  · intro hsigned
    obtain ⟨attested, signature, hattested, hpresents, hverifies⟩ := hsigned
    -- without the bounds the number could not be read, however it is matched later
    have hbounds := attested.publicKey.algorithm.identifier_bounds
    exact (packedSelf_of_credential hdistinct ⟨hpresents, hbounds⟩ hattested).1.2 ⟨rfl, hverifies⟩

/-- What it does not accept is a malformed object if only the credential is missing, and otherwise fails verification. -/
theorem packedSelf_eq_error {failure : Failure} :
    (packedSelf object clientDataJson).outcome = .error failure ↔
      failure = .invalidAttestationObject ∧ object.data.attested = none ∧
          PackedStatement.Acceptable object.statement ∨
        failure = .attestationVerificationFailed ∧ ¬ object.SelfSigned clientDataJson ∧
          ¬ (object.data.attested = none ∧ PackedStatement.Acceptable object.statement) := by
  by_cases hmissing : object.data.attested = none ∧ PackedStatement.Acceptable object.statement
  · rw [packedSelf_of_no_credential hdistinct hmissing.2 hmissing.1, Except.error.injEq]
    simp only [hmissing, not_true, and_false, or_false, and_true, eq_comm]
  · -- in all other cases there is one way to fail, so that to fail is not to be accepted
    have honly : FailsOnlyWith .attestationVerificationFailed (packedSelf object clientDataJson) := by
      by_cases hacceptable : PackedStatement.Acceptable object.statement
      · cases hattested : object.data.attested with
        | none => exact absurd ⟨hattested, hacceptable⟩ hmissing
        | some attested =>
          obtain ⟨algorithm, signature, hpresents⟩ := hacceptable
          exact (packedSelf_of_credential hdistinct hpresents hattested).2
      · intro failure hfails
        rw [packedSelf_of_not_acceptable hdistinct hacceptable] at hfails
        exact (Except.error.inj hfails).symm
    rw [← packedSelf_eq_ok hdistinct]
    simp only [hmissing, and_false, not_false_eq_true, and_true, false_or]
    constructor
    · intro hfails
      refine ⟨honly failure hfails, ?_⟩
      rw [hfails]
      nofun
    · intro hrefused
      obtain ⟨rfl, hnot⟩ := hrefused
      obtain ⟨_, hok⟩ | hfails := honly.outcome_eq
      · exact absurd hok hnot
      · exact hfails

end Outcomes

/-- A statement is taken if it has been signed with the key of the object itself, over the very bytes that the data of
the object is read from. Only the lack of a key under a statement that is fine so far counts as a malformed object. -/
theorem self_attestation_proves_possession (bytes clientDataJson : Bytes) (object : AttestationObject)
    (h : (parse bytes).outcome = .ok object) :
    ((packedSelf object clientDataJson).outcome = .ok () ↔ object.SelfSigned clientDataJson) ∧
    (∃ members, Cbor.decode {} bytes = .ok (.map members) ∧
      (.text "authData", .bytes object.rawData) ∈ members) ∧
    (AuthenticatorData.parse object.rawData).outcome = .ok object.data ∧
    ∀ failure, (packedSelf object clientDataJson).outcome = .error failure ↔
      failure = .invalidAttestationObject ∧ object.data.attested = none ∧
          PackedStatement.Acceptable object.statement ∨
        failure = .attestationVerificationFailed ∧ ¬ object.SelfSigned clientDataJson ∧
          ¬ (object.data.attested = none ∧ PackedStatement.Acceptable object.statement) := by
  obtain ⟨members, hdecode, hmembers⟩ := parse_eq_ok.1 h
  have hdistinct : ∀ inner, object.statement = some (.map inner) → (inner.map Prod.fst).Nodup := by
    intro inner hstatement
    have hmem := Cbor.Value.mem_of_lookup (hmembers.statement.trans hstatement)
    exact Cbor.distinct_of_decode_mem hdecode hmem
  exact ⟨packedSelf_eq_ok hdistinct, ⟨members, hdecode, Cbor.Value.mem_of_lookup hmembers.rawData⟩,
    AuthenticatorData.parse_eq_ok.2 hmembers.data, fun failure => packedSelf_eq_error hdistinct⟩

def sampleSelfData : Bytes :=
  Registration.sampleAuthenticator.registrationDraft.encode

/-- What the authenticator's key signs over this data and the client data 01 02. -/
def sampleSelfSignature : Bytes :=
  Registration.sampleAuthenticator.keyPair.sign .zeros (sampleSelfData ++ sha256 [1, 2])

def sampleSelfStatement (signature : Bytes) : Cbor.Value :=
  .map [(.text "alg", .int (-7)), (.text "sig", .bytes signature)]

/-- Authenticator data of the same authenticator without a credential. -/
def sampleBareData : Bytes :=
  (sampleSelfData.take AuthenticatorData.headerLength).set 32 Registration.sampleAuthenticator.flags

theorem acceptable_sampleSelfStatement (signature : Bytes) :
    PackedStatement.Acceptable (some (sampleSelfStatement signature)) := by
  refine ⟨-7, signature, ⟨_, rfl, List.mem_cons_self,
    List.mem_cons_of_mem _ List.mem_cons_self, ?_⟩, by decide, by decide⟩
  intro value hmem
  simp at hmem

set_option maxRecDepth 100000 in
/-- The statement is accepted with the data that it is about. Without a credential the object is malformed, whatever the
signature is. -/
theorem sample_self_signed :
    (∃ object, (parse (encode "packed" sampleSelfData
        (sampleSelfStatement sampleSelfSignature))).outcome = .ok object ∧
      object.SelfSigned [1, 2]) ∧
    ∃ object, (parse (encode "packed" sampleBareData (sampleSelfStatement []))).outcome = .ok object ∧
      (packedSelf object [1, 2]).outcome = .error .invalidAttestationObject := by
  have hsigned : (parse (encode "packed" sampleSelfData
      (sampleSelfStatement sampleSelfSignature))).outcome.toOption.map
      (fun object => (packedSelf object [1, 2]).outcome.toOption) = some (some ()) := by
    decide +kernel
  have hbare : (parse (encode "packed" sampleBareData (sampleSelfStatement []))).outcome.toOption.map
      (fun object => (object.data.attested, object.statement)) =
        some (none, some (sampleSelfStatement [])) := by
    decide +kernel
  constructor
  · obtain ⟨object, hparse, hok⟩ := Option.map_eq_some_iff.1 hsigned
    have hparse := toOption_outcome_iff.1 hparse
    obtain ⟨haccepts, _⟩ := self_attestation_proves_possession _ [1, 2] object hparse
    exact ⟨object, hparse, haccepts.1 (toOption_outcome_iff.1 hok)⟩
  · obtain ⟨object, hparse, hfields⟩ := Option.map_eq_some_iff.1 hbare
    obtain ⟨hnone, hstatement⟩ := Prod.mk.inj hfields
    have hparse := toOption_outcome_iff.1 hparse
    have hacceptable : PackedStatement.Acceptable object.statement := by
      rw [hstatement]
      exact acceptable_sampleSelfStatement []
    obtain ⟨_, _, _, hfails⟩ := self_attestation_proves_possession _ [1, 2] object hparse
    exact ⟨object, hparse, (hfails _).2 (.inl ⟨rfl, hnone, hacceptable⟩)⟩

end AttestationObject

end WebAuthn
