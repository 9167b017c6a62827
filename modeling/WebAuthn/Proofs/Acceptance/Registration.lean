import WebAuthn.Authenticator.Software
import WebAuthn.Proofs.Acceptance.ClientData
import WebAuthn.Proofs.Layout.AttestationObject

/-!
# Which registrations are accepted

* `StatementRegistry.Reached` — the registries that calls lead to, with the verifiers given to format names in order;
* `Registration.checks` — what has to hold of the bytes of a registration, in the order of the checks;
* `Registration.validate_decidedBy` — these checks and then the verifier of the format decide the registration;
* `Registration.registration_outcome_iff` — the same as a statement about every outcome, with what it means for formats.
-/

namespace WebAuthn

open Audited

/-! ### Registries and their histories -/

namespace StatementRegistry

/-- Format names and the verifiers that they were given, the latest at the end. -/
abbrev History := List (String × StatementVerifier)

/-- The verifier that a format name was given last. -/
def History.last? (history : History) (format : String) : Option StatementVerifier :=
  history.reverse.lookup format

/-- The registry is there after the calls of a history, which began with no format or with the one without proof. -/
inductive Reached : StatementRegistry → History → Prop where
  | empty : Reached .empty []
  | standard : Reached .standard [(StatementVerifier.noneName, .none)]
  | register {registry next : StatementRegistry} {history : History} {format : String}
      {verifier : StatementVerifier} : Reached registry history →
      (registry.register format verifier).outcome = .ok next →
      Reached next (history ++ [(format, verifier)])

theorem last?_append (history : History) (format other : String) (verifier : StatementVerifier) :
    History.last? (history ++ [(format, verifier)]) other =
      if other = format then some verifier else history.last? other := by
  unfold History.last?
  rw [List.reverse_append, List.reverse_singleton, List.singleton_append, List.lookup_cons]
  by_cases h : other = format
  · rw [if_pos h, beq_iff_eq.2 h]
  · rw [if_neg h, beq_eq_false_iff_ne.2 h]

theorem last?_eq_none {history : History} {format : String} :
    history.last? format = none ↔ ∀ entry ∈ history, entry.1 ≠ format := by
  unfold History.last?
  rw [List.lookup_eq_none_iff]
  constructor
  · intro h entry he hn
    exact absurd (h entry (List.mem_reverse.2 he)) (by simp [hn])
  · intro h entry he
    exact bne_iff_ne.2 fun hn => h entry (List.mem_reverse.1 he) hn.symm

theorem register_eq_ok {registry next : StatementRegistry} {format : String}
    {verifier : StatementVerifier} :
    (registry.register format verifier).outcome = .ok next ↔
      next = registry.insert format verifier := by
  have ho : (registry.register format verifier).outcome = .ok (registry.insert format verifier) := by
    unfold register
    cases (registry.lookup? format).isSome <;> rfl
  rw [ho, Except.ok.injEq, eq_comm]

/-- A registry knows the last verifiers of its history. -/
theorem Reached.lookup?_eq {registry : StatementRegistry} {history : History}
    (h : Reached registry history) (format : String) :
    registry.lookup? format = history.last? format := by
  induction h with
  | empty => rfl
  | standard =>
    have hl := last?_append [] StatementVerifier.noneName format .none
    rw [List.nil_append] at hl
    rw [StatementRegistry.standard, lookup?_insert, hl]
    rfl
  | register _ hr ih =>
    rw [register_eq_ok.1 hr, lookup?_insert, last?_append, ih]

end StatementRegistry

namespace Registration

variable {registration : Registration} {policy : Policy} {challenge : Challenge}
  {registry : StatementRegistry} {history : StatementRegistry.History}

/-! ### The checks -/

/-- The bytes are the whole of an attestation object with a property. -/
def Carries (bytes : Bytes) (property : AttestationObject → Prop) : Prop :=
  ∃ object : AttestationObject, object.LaidOut bytes ∧ property object

/-- The policy accepts the algorithm of the key. -/
def Allows (policy : Policy) (key : Cose.Key) : Prop :=
  ∃ allowed ∈ policy.allowedAlgorithms, allowed.toInt = key.algorithm.identifier

/-- What has to hold of a registration, for a challenge and the formats of a history. The verifier of the format has
the last word. -/
def checks (registration : Registration) (policy : Policy) (history : StatementRegistry.History)
    (challenge : Challenge) : List Check :=
  let bytes := registration.attestationObject
  ClientData.checks registration.clientDataJson policy.origins .registration challenge ++
    [⟨∃ object : AttestationObject, object.LaidOut bytes, .invalidAttestationObject⟩,
      ⟨Carries bytes fun object => object.data.rpIdHash.bytes = sha256 (Utf8.encode policy.rpId),
        .rpIdMismatch⟩,
      ⟨Carries bytes fun object => object.data.flags.userPresent = true, .userPresenceRequired⟩,
      ⟨Carries bytes fun object =>
          policy.userVerification = .required → object.data.flags.userVerified = true,
        .userVerificationRequired⟩,
      ⟨Carries bytes fun object => ∃ attested, object.data.attested = some attested,
        .invalidAttestationObject⟩,
      ⟨Carries bytes fun object =>
          ∃ attested, object.data.attested = some attested ∧ Allows policy attested.publicKey,
        .invalidAttestationObject⟩,
      ⟨Carries bytes fun object => ∃ verifier, history.last? object.format = some verifier,
        .unsupportedAttestationFormat⟩]

/-- A property of an object is a property of the bytes that are the whole of it. -/
theorem carries_iff {object : AttestationObject} {bytes : Bytes} (h : object.LaidOut bytes)
    (property : AttestationObject → Prop) : property object ↔ Carries bytes property := by
  constructor
  · intro hp
    exact ⟨object, h, hp⟩
  · intro hc
    obtain ⟨other, ho, hp⟩ := hc
    rw [← h.unique ho]
    exact hp

/-! ### Each check -/

theorem attested_eq_ok {object : AttestationObject} {attested : AttestedCredential} :
    object.attested.outcome = .ok attested ↔ object.data.attested = some attested := by
  unfold AttestationObject.attested
  cases object.data.attested with
  | none => simp [malformedAttestation]
  | some found => simp

theorem failsOnlyWith_attested (object : AttestationObject) :
    FailsOnlyWith .invalidAttestationObject object.attested := by
  unfold AttestationObject.attested
  cases object.data.attested with
  | none => exact failsOnlyWith_refuseWith _ _
  | some found => exact failsOnlyWith_pure found

theorem allows_iff (key : Cose.Key) :
    policy.allows key.algorithm.identifier = true ↔ Allows policy key := by
  unfold Policy.allows Allows
  rw [List.any_eq_true]
  simp only [beq_iff_eq]

theorem decidedBy_verifyAlgorithm (attested : AttestedCredential) :
    (verifyAlgorithm policy attested).DecidedBy
      [⟨Allows policy attested.publicKey, .invalidAttestationObject⟩] (.ok ()) := by
  refine decidedBy_of_iff ?_ (allows_iff attested.publicKey)
  unfold verifyAlgorithm
  simp only
  split <;> rfl

theorem verifierFor_eq_ok (reached : StatementRegistry.Reached registry history) {format : String}
    {verifier : StatementVerifier} :
    (registry.verifierFor format).outcome = .ok verifier ↔
      history.last? format = some verifier := by
  unfold StatementRegistry.verifierFor
  rw [reached.lookup?_eq]
  cases history.last? format <;> simp

theorem failsOnlyWith_verifierFor (format : String) :
    FailsOnlyWith .unsupportedAttestationFormat (registry.verifierFor format) := by
  unfold StatementRegistry.verifierFor
  split
  · exact failsOnlyWith_pure _
  · exact failsOnlyWith_refuse

/-! ### All checks -/

/-- What is left of a registration for which all checks hold: the verdict of the verifier. -/
def finish (registration : Registration) (registry : StatementRegistry) : Audited Attestation := do
  let object ← AttestationObject.parse registration.attestationObject
  let attested ← object.attested
  let verifier ← registry.verifierFor object.format
  verifier object registration.clientDataJson
  return ⟨attested.credentialId, attested.publicKey, object.data.signCount, object.format⟩

/-- After an object with a credential was read, the verifier decides. -/
theorem finish_outcome {object : AttestationObject} {attested : AttestedCredential}
    {verifier : StatementVerifier} (hobject : object.LaidOut registration.attestationObject)
    (hattested : object.data.attested = some attested)
    (hverifier : (registry.verifierFor object.format).outcome = .ok verifier) :
    (finish registration registry).outcome =
      (verifier object registration.clientDataJson >>= fun _ => pure
        ⟨attested.credentialId, attested.publicKey, object.data.signCount, object.format⟩).outcome := by
  unfold finish
  rw [outcome_bind_of_ok (AttestationObject.parse_eq_ok.2 hobject),
    outcome_bind_of_ok (attested_eq_ok.2 hattested), outcome_bind_of_ok hverifier]

/-- The checks and then the verifier decide a registration. -/
theorem validate_decidedBy (registration : Registration) (policy : Policy) (challenge : Challenge)
    (reached : StatementRegistry.Reached registry history) :
    (registration.validate policy registry challenge).DecidedBy
      (checks registration policy history challenge) (finish registration registry).outcome := by
  unfold validate
  refine ClientData.accept_bind_decidedBy fun _ _ => ?_
  refine (AttestationObject.failsOnlyWith_parse _).decidedBy_bind
    (by simp only [AttestationObject.parse_eq_ok]) fun object hobject => ?_
  have hl : object.LaidOut registration.attestationObject := AttestationObject.parse_eq_ok.1 hobject
  -- the bytes lay out one object only, so that the checks of any such object are checks of this one
  simp only [← carries_iff hl]
  refine (AuthenticatorData.decidedBy_verifyRpId _).bind_cons ?_
  refine AuthenticatorData.decidedBy_verifyUserPresent.bind_cons ?_
  refine (AuthenticatorData.decidedBy_verifyUserVerification _).bind_cons ?_
  refine (failsOnlyWith_attested object).decidedBy_bind (by simp only [attested_eq_ok])
    fun attested hattested => ?_
  have ha : object.data.attested = some attested := attested_eq_ok.1 hattested
  simp only [ha, Option.some.injEq, exists_eq_left']
  refine (decidedBy_verifyAlgorithm attested).bind_cons ?_
  unfold verifyStatement
  rw [bind_assoc]
  refine ((failsOnlyWith_verifierFor object.format).onFailure _).decidedBy_bind
    (by simp only [outcome_onFailure, verifierFor_eq_ok reached]) fun verifier hverifier => ?_
  rw [outcome_onFailure] at hverifier
  rw [finish_outcome hl ha hverifier]
  exact decidedBy_nil _

/-- The verifier that the format was given last accepts the object, and what is attested stands in it. -/
def Attests (registration : Registration) (history : StatementRegistry.History) (a : Attestation) :
    Prop :=
  ∃ (object : AttestationObject) (attested : AttestedCredential) (verifier : StatementVerifier),
    object.LaidOut registration.attestationObject ∧ object.data.attested = some attested ∧
      history.last? object.format = some verifier ∧
      (verifier object registration.clientDataJson).outcome = .ok () ∧
      a = ⟨attested.credentialId, attested.publicKey, object.data.signCount, object.format⟩

/-- The verifier that the format was given last rejects the object. -/
def Rejected (registration : Registration) (history : StatementRegistry.History)
    (failure : Failure) : Prop :=
  ∃ (object : AttestationObject) (verifier : StatementVerifier),
    object.LaidOut registration.attestationObject ∧ history.last? object.format = some verifier ∧
      (verifier object registration.clientDataJson).outcome = .error failure

theorem finish_eq_ok (reached : StatementRegistry.Reached registry history) {a : Attestation} :
    (finish registration registry).outcome = .ok a ↔ Attests registration history a := by
  unfold finish Attests
  simp only [outcome_bind_ok, AttestationObject.parse_eq_ok, attested_eq_ok,
    verifierFor_eq_ok reached, outcome_pure, Except.ok.injEq]
  constructor
  · intro h
    obtain ⟨object, ho, attested, ha, verifier, hv, _, hs, he⟩ := h
    exact ⟨object, attested, verifier, ho, ha, hv, hs, he.symm⟩
  · intro h
    obtain ⟨object, attested, verifier, ho, ha, hv, hs, he⟩ := h
    exact ⟨object, ho, attested, ha, verifier, hv, (), hs, he.symm⟩

theorem finish_eq_error (reached : StatementRegistry.Reached registry history) {failure : Failure}
    (h : ∀ check ∈ checks registration policy history challenge, check.holds) :
    (finish registration registry).outcome = .error failure ↔
      Rejected registration history failure := by
  simp only [checks, List.forall_mem_append, List.forall_mem_cons] at h
  -- what the checks found is what the last part looks up again
  obtain ⟨_, _, _, _, _, hattested, _, hformat, _⟩ := h
  obtain ⟨object, hobject, attested, hattested⟩ := hattested
  obtain ⟨verifier, hverifier⟩ := (carries_iff hobject _).2 hformat
  rw [finish_outcome hobject hattested ((verifierFor_eq_ok reached).2 hverifier), outcome_bind]
  constructor
  · intro h
    refine ⟨object, verifier, hobject, hverifier, ?_⟩
    cases hv : (verifier object registration.clientDataJson).outcome with
    | ok _ =>
      rw [hv] at h
      cases h
    | error e =>
      rw [hv] at h
      cases h
      rfl
  · intro h
    obtain ⟨other, last, ho, hl, he⟩ := h
    rw [hobject.unique ho] at hl he
    rw [hverifier] at hl
    cases hl
    rw [he]
    rfl

/-- What is accepted presents the challenge, whatever the registry knows. -/
theorem presented?_of_validate {a : Attestation}
    (h : (registration.validate policy registry challenge).outcome = .ok a) :
    ClientData.presented? registration.clientDataJson = some challenge.bytes := by
  obtain ⟨_, hd, _⟩ := outcome_bind_ok.1 h
  exact ClientData.presented?_of_accept hd

/-! ### Formats -/

/-- What is attested has a format that was given a verifier. -/
theorem Attests.format_known {a : Attestation} (h : Attests registration history a)
    {object : AttestationObject} (hobject : object.LaidOut registration.attestationObject) :
    ∃ entry ∈ history, entry.1 = object.format := by
  obtain ⟨other, _, verifier, ho, _, hl, _⟩ := h
  rw [hobject.unique ho] at hl
  refine Classical.byContradiction fun hn => ?_
  have hnone := StatementRegistry.last?_eq_none.2 fun entry he hf => hn ⟨entry, he, hf⟩
  rw [hnone] at hl
  cases hl

/-- An object that the verifier of the format without proof accepts has no statement or an empty one. -/
theorem statement_of_none {object : AttestationObject} {clientDataJson : Bytes}
    (h : (StatementVerifier.none object clientDataJson).outcome = .ok ()) :
    object.statement = none ∨ object.statement = some (.map []) := by
  unfold StatementVerifier.none AttestationObject.statementIsEmpty at h
  cases hs : object.statement with
  | none => exact .inl rfl
  | some statement =>
    rw [hs] at h
    cases statement with
    | map entries =>
      cases entries with
      | nil => exact .inr rfl
      | cons => cases h
    | _ => cases h

/-- With no verifier but the one without proof, what is attested has that format and an empty statement. -/
theorem Attests.without_proof {a : Attestation}
    (h : Attests registration [(StatementVerifier.noneName, .none)] a) :
    a.format = StatementVerifier.noneName ∧
      Carries registration.attestationObject fun object =>
        object.format = StatementVerifier.noneName ∧
          (object.statement = none ∨ object.statement = some (.map [])) := by
  obtain ⟨object, _, verifier, ho, _, hl, hv, rfl⟩ := h
  have hlast := StatementRegistry.last?_append [] StatementVerifier.noneName object.format .none
  rw [List.nil_append, hl] at hlast
  split at hlast
  · next hformat =>
    cases hlast
    exact ⟨hformat, object, ho, hformat, statement_of_none hv⟩
  · cases hlast

/-- A registration is accepted if all checks hold and its verifier accepts it. Otherwise it fails as its first check
that does not hold says, or as the verifier says if all checks hold. A format that was given no verifier is never
accepted; with no verifier but the one without proof, only that format is, with an empty statement. -/
theorem registration_outcome_iff {registry : StatementRegistry} {history : StatementRegistry.History}
    (reached : StatementRegistry.Reached registry history) (registration : Registration)
    (policy : Policy) (challenge : Challenge) :
    (∀ a, (registration.validate policy registry challenge).outcome = .ok a ↔
      (∀ check ∈ checks registration policy history challenge, check.holds) ∧
        Attests registration history a) ∧
    (∀ failure, (registration.validate policy registry challenge).outcome = .error failure ↔
      Check.FirstFailure (checks registration policy history challenge) failure ∨
        (∀ check ∈ checks registration policy history challenge, check.holds) ∧
          Rejected registration history failure) ∧
    (∀ object : AttestationObject, object.LaidOut registration.attestationObject →
      (∀ entry ∈ history, entry.1 ≠ object.format) →
      ∀ a, (registration.validate policy registry challenge).outcome ≠ .ok a) ∧
    (history = [(StatementVerifier.noneName, .none)] →
      ∀ a, (registration.validate policy registry challenge).outcome = .ok a →
        a.format = StatementVerifier.noneName ∧
          Carries registration.attestationObject fun object =>
            object.format = StatementVerifier.noneName ∧
              (object.statement = none ∨ object.statement = some (.map []))) := by
  have hd := validate_decidedBy registration policy challenge reached
  have hok : ∀ a, (registration.validate policy registry challenge).outcome = .ok a ↔
      (∀ check ∈ checks registration policy history challenge, check.holds) ∧
        Attests registration history a :=
    fun a => hd.outcome_ok_iff.trans (and_congr_right fun _ => finish_eq_ok reached)
  refine ⟨hok, fun failure => ?_, fun object hobject hnever a ha => ?_, fun honly a ha => ?_⟩
  · rw [hd.outcome_error_iff]
    exact or_congr_right (and_congr_right fun hall => finish_eq_error reached hall)
  · obtain ⟨entry, he, hf⟩ := ((hok a).1 ha).2.format_known hobject
    exact hnever entry he hf
  · have hattests := ((hok a).1 ha).2
    rw [honly] at hattests
    exact hattests.without_proof

/-! ### A registration -/

/-- An authenticator with an elliptic curve key. -/
def sampleAuthenticator : SoftwareAuthenticator :=
  ⟨"a.test", "https://a.test", .es256 7, [1, 2, 3], none, 0x05⟩

def samplePolicy : Policy :=
  .standard sampleAuthenticator.rpId [sampleAuthenticator.origin]

def sampleChallenge : Challenge :=
  ⟨List.replicate 16 9, by decide⟩

set_option maxRecDepth 100000 in
/-- The authenticator's registration is accepted by the registry without calls, and attested as the theorem says. -/
theorem sample_registration_accepted :
    StatementRegistry.Reached .standard [(StatementVerifier.noneName, .none)] ∧
      ∃ a, ((sampleAuthenticator.register sampleChallenge).validate samplePolicy .standard
          sampleChallenge).outcome = .ok a ∧
        Attests (sampleAuthenticator.register sampleChallenge)
          [(StatementVerifier.noneName, .none)] a ∧
        a.format = StatementVerifier.noneName := by
  have hsome : ((sampleAuthenticator.register sampleChallenge).validate samplePolicy .standard
      sampleChallenge).outcome.toOption.isSome = true := by
    decide +kernel
  cases ho : ((sampleAuthenticator.register sampleChallenge).validate samplePolicy .standard
      sampleChallenge).outcome with
  | error e =>
    rw [ho] at hsome
    cases hsome
  | ok a =>
    obtain ⟨hok, _, _, hnone⟩ := registration_outcome_iff .standard
      (sampleAuthenticator.register sampleChallenge) samplePolicy sampleChallenge
    exact ⟨.standard, a, rfl, ((hok a).1 ho).2, (hnone rfl a ho).1⟩

end Registration

end WebAuthn
