import WebAuthn.Assertion
import WebAuthn.Proofs.Acceptance.ClientData
import WebAuthn.Proofs.Layout.AuthenticatorData

/-!
# Which assertions are accepted

* `Assertion.checks` — what has to hold of the bytes of an assertion, in the order of the checks;
* `Assertion.validate_decidedBy` — these checks decide the assertion and its sign count;
* `Assertion.assertion_outcome_iff` — the same as a statement about every outcome.
-/

namespace WebAuthn

open Audited

namespace Assertion

variable {assertion : Assertion} {policy : Policy} {credential : Credential} {challenge : Challenge}

/-! ### The checks -/

/-- What has to hold of an assertion, for a credential and a challenge. -/
def checks (assertion : Assertion) (policy : Policy) (credential : Credential)
    (challenge : Challenge) : List Check :=
  let data := assertion.authenticatorData
  let flags := AuthenticatorData.flagsAt data
  let message := data ++ sha256 assertion.clientDataJson
  ⟨∀ id ∈ assertion.credentialId, id = credential.id, .unknownCredential⟩ ::
    (ClientData.checks assertion.clientDataJson policy.origins .authentication challenge ++
      [⟨AuthenticatorData.Bare data, .invalidAttestationObject⟩,
        ⟨data.take 32 = sha256 (Utf8.encode policy.rpId), .rpIdMismatch⟩,
        ⟨flags.userPresent = true, .userPresenceRequired⟩,
        ⟨policy.userVerification = .required → flags.userVerified = true, .userVerificationRequired⟩,
        ⟨∀ handle ∈ assertion.userHandle, handle = credential.userHandle, .unknownCredential⟩,
        ⟨(credential.publicKey.verifies assertion.signature message).outcome = .ok true,
          .signatureVerificationFailed⟩,
        ⟨credential.signCount = 0 ∨ credential.signCount.toNat < AuthenticatorData.signCountAt data,
          .possibleCloneDetected⟩])

/-! ### Each check -/

theorem differs_iff (named : Option Bytes) (expected : Bytes) :
    ¬ differs named expected = true ↔ ∀ bytes ∈ named, bytes = expected := by
  cases named with
  | none => simp [differs]
  | some bytes =>
    have h := Bytes.same_iff bytes expected
    simp [differs, h]

theorem decidedBy_verifyCredentialId :
    (assertion.verifyCredentialId credential).DecidedBy
      [⟨∀ id ∈ assertion.credentialId, id = credential.id, .unknownCredential⟩] (.ok ()) := by
  refine decidedBy_of_iff ?_ (differs_iff assertion.credentialId credential.id)
  unfold verifyCredentialId
  rw [ite_not]
  split <;> rfl

theorem decidedBy_verifyUserHandle :
    (assertion.verifyUserHandle credential).DecidedBy
      [⟨∀ handle ∈ assertion.userHandle, handle = credential.userHandle, .unknownCredential⟩] (.ok ()) := by
  refine decidedBy_of_iff ?_ (differs_iff assertion.userHandle credential.userHandle)
  unfold verifyUserHandle
  rw [ite_not]
  split <;> rfl

theorem verify_eq_ok (key : Cose.Key) (signature data hash : Bytes) :
    (key.verifies signature (data ++ hash)).outcome = .ok true ↔
      (key.verify signature data hash).outcome = .ok () := by
  unfold Cose.Key.verify
  rw [outcome_bind_ok]
  simp only [outcome_failingWith_ok]
  constructor
  · intro h
    exact ⟨true, h, rfl⟩
  · intro h
    obtain ⟨verified, hv, h⟩ := h
    cases verified with
    | true => exact hv
    | false => cases h

/-- A signature that does not belong to the key and a key that cannot be used fail in the same way. -/
theorem failsOnlyWith_verify (key : Cose.Key) (signature data hash : Bytes) :
    FailsOnlyWith .signatureVerificationFailed (key.verify signature data hash) := by
  refine (failsOnlyWith_failingWith _).bind fun verified => ?_
  cases verified with
  | true => exact failsOnlyWith_pure ()
  | false => exact failsOnlyWith_refuse

theorem decidedBy_verifySignature :
    (assertion.verifySignature credential).DecidedBy
      [⟨(credential.publicKey.verifies assertion.signature
          (assertion.authenticatorData ++ sha256 assertion.clientDataJson)).outcome = .ok true,
        .signatureVerificationFailed⟩] (.ok ()) := by
  refine FailsOnlyWith.decidedBy ((failsOnlyWith_verify _ _ _ _).onFailure _) ?_
  rw [outcome_onFailure]
  exact verify_eq_ok _ _ _ _

theorem decidedBy_nextSignCount (stored presented : UInt32) :
    (nextSignCount stored presented).DecidedBy
      [⟨stored = 0 ∨ stored.toNat < presented.toNat, .possibleCloneDetected⟩] (.ok presented) := by
  have h : ¬ (0 < stored ∧ presented ≤ stored) ↔ stored = 0 ∨ stored.toNat < presented.toNat := by
    rw [UInt32.lt_iff_toNat_lt, UInt32.le_iff_toNat_le, ← UInt32.toNat_inj]
    show ¬ (0 < stored.toNat ∧ presented.toNat ≤ stored.toNat) ↔
      stored.toNat = 0 ∨ stored.toNat < presented.toNat
    omega
  refine decidedBy_of_iff ?_ h
  unfold nextSignCount
  rw [ite_not]
  split <;> rfl

/-! ### All checks -/

/-- The authenticator data of an assertion, which carries no credential. -/
def parseBare (bytes : Bytes) : Audited AuthenticatorData := do
  let data ← AuthenticatorData.parse bytes
  refuseAttested data
  return data

theorem refuseAttested_eq_ok {data : AuthenticatorData} :
    (refuseAttested data).outcome = .ok () ↔ data.flags.hasAttested = false := by
  unfold refuseAttested
  cases data.flags.hasAttested <;> simp

theorem parseBare_eq_ok {bytes : Bytes} {data : AuthenticatorData} :
    (parseBare bytes).outcome = .ok data ↔
      data.LaidOut bytes ∧ data.flags.hasAttested = false := by
  unfold parseBare
  rw [outcome_bind_ok]
  constructor
  · intro h
    obtain ⟨found, hp, h⟩ := h
    obtain ⟨⟨⟩, hr, h⟩ := outcome_bind_ok.1 h
    cases h
    exact ⟨AuthenticatorData.parse_eq_ok.1 hp, refuseAttested_eq_ok.1 hr⟩
  · intro h
    refine ⟨data, AuthenticatorData.parse_eq_ok.2 h.1, ?_⟩
    exact outcome_bind_ok.2 ⟨(), refuseAttested_eq_ok.2 h.2, rfl⟩

theorem failsOnlyWith_parseBare (bytes : Bytes) :
    FailsOnlyWith .invalidAttestationObject (parseBare bytes) := by
  refine (AuthenticatorData.failsOnlyWith_parse bytes).bind fun data => ?_
  refine FailsOnlyWith.bind ?_ fun _ => failsOnlyWith_pure data
  unfold refuseAttested
  split
  · exact failsOnlyWith_refuseWith _ _
  · exact failsOnlyWith_pure ()

theorem bare_iff {bytes : Bytes} :
    AuthenticatorData.Bare bytes ↔ ∃ data, (parseBare bytes).outcome = .ok data := by
  simp only [parseBare_eq_ok]
  constructor
  · intro h
    exact h.exists_laidOut
  · intro h
    obtain ⟨data, hl, hn⟩ := h
    exact hl.bare hn

/-- The checks decide an assertion; its sign count stands in the authenticator data. -/
theorem validate_decidedBy (assertion : Assertion) (policy : Policy) (credential : Credential)
    (challenge : Challenge) :
    (assertion.validate policy credential challenge).DecidedBy
      (checks assertion policy credential challenge)
      (.ok (UInt32.ofNat (AuthenticatorData.signCountAt assertion.authenticatorData))) := by
  -- reading the data and refusing a credential in it are one check of the list
  have hsteps : assertion.validate policy credential challenge = (do
      assertion.verifyCredentialId credential
      let _ ← ClientData.accept assertion.clientDataJson policy.origins .authentication challenge
      let data ← parseBare assertion.authenticatorData
      data.verifyRpId policy.rpId
      data.verifyUserPresent
      data.verifyUserVerification policy.userVerification
      assertion.verifyUserHandle credential
      assertion.verifySignature credential
      nextSignCount credential.signCount data.signCount) := by
    simp only [validate, parseBare, bind_assoc, pure_bind]
  rw [hsteps]
  refine decidedBy_verifyCredentialId.bind_cons ?_
  refine ClientData.accept_bind_decidedBy fun _ _ => ?_
  refine (failsOnlyWith_parseBare _).decidedBy_bind bare_iff fun data hdata => ?_
  have hf : data.Fields assertion.authenticatorData := (parseBare_eq_ok.1 hdata).1.fields
  have hcount : UInt32.ofNat (AuthenticatorData.signCountAt assertion.authenticatorData) =
      data.signCount := by
    rw [← hf.signCount, UInt32.ofNat_toNat]
  rw [← hf.rpIdHash, ← hf.flags, hcount, ← hf.signCount]
  refine (AuthenticatorData.decidedBy_verifyRpId _).bind_cons ?_
  refine AuthenticatorData.decidedBy_verifyUserPresent.bind_cons ?_
  refine (AuthenticatorData.decidedBy_verifyUserVerification _).bind_cons ?_
  refine decidedBy_verifyUserHandle.bind_cons ?_
  exact decidedBy_verifySignature.bind_cons (decidedBy_nextSignCount _ _)

/-- What is accepted presents the challenge. -/
theorem presented?_of_validate {n : UInt32}
    (h : (assertion.validate policy credential challenge).outcome = .ok n) :
    ClientData.presented? assertion.clientDataJson = some challenge.bytes := by
  obtain ⟨_, _, h⟩ := outcome_bind_ok.1 h
  obtain ⟨_, hd, _⟩ := outcome_bind_ok.1 h
  exact ClientData.presented?_of_accept hd

/-- What is accepted counts up, unless the credential never counted. -/
theorem counts_of_validate {n : UInt32}
    (h : (assertion.validate policy credential challenge).outcome = .ok n) :
    credential.signCount = 0 ∨ credential.signCount < n := by
  obtain ⟨hall, hn⟩ := (validate_decidedBy assertion policy credential challenge).outcome_ok_iff.1 h
  cases hn
  simp only [checks, List.forall_mem_cons, List.forall_mem_append] at hall
  obtain ⟨_, _, _, _, _, _, _, _, hcount, _⟩ := hall
  have hlt := AuthenticatorData.signCountAt_lt assertion.authenticatorData
  rw [UInt32.lt_iff_toNat_lt, UInt32.toNat_ofNat', Nat.mod_eq_of_lt hlt]
  exact hcount

/-- The accepted sign count stands in the authenticator data, which is signed. -/
theorem signed_of_validate {n : UInt32}
    (h : (assertion.validate policy credential challenge).outcome = .ok n) :
    n.toNat = AuthenticatorData.signCountAt assertion.authenticatorData ∧
      (credential.publicKey.verifies assertion.signature
        (assertion.authenticatorData ++ sha256 assertion.clientDataJson)).outcome = .ok true := by
  obtain ⟨hall, hn⟩ := (validate_decidedBy assertion policy credential challenge).outcome_ok_iff.1 h
  cases hn
  simp only [checks, List.forall_mem_cons, List.forall_mem_append] at hall
  obtain ⟨_, _, _, _, _, _, _, hsignature, _⟩ := hall
  have hlt := AuthenticatorData.signCountAt_lt assertion.authenticatorData
  exact ⟨by rw [UInt32.toNat_ofNat', Nat.mod_eq_of_lt hlt], hsignature⟩

/-- The credential id that is named belongs to the credential. -/
theorem names_of_validate {n : UInt32}
    (h : (assertion.validate policy credential challenge).outcome = .ok n) :
    ∀ id ∈ assertion.credentialId, id = credential.id := by
  obtain ⟨hall, _⟩ := (validate_decidedBy assertion policy credential challenge).outcome_ok_iff.1 h
  simp only [checks, List.forall_mem_cons, List.forall_mem_append] at hall
  exact hall.1

/-- The credential after an assertion is the one before it, with the accepted sign count. -/
theorem credential_eq_ok {updated : Credential} :
    (assertion.credential policy credential challenge).outcome = .ok updated ↔
      ∃ n, (assertion.validate policy credential challenge).outcome = .ok n ∧
        updated = credential.withSignCount n := by
  unfold Assertion.credential
  rw [outcome_bind_ok]
  refine exists_congr fun n => and_congr_right fun _ => ?_
  exact ⟨fun h => (Except.ok.inj h).symm, fun h => congrArg Except.ok h.symm⟩

theorem credential_eq_error {failure : Failure} :
    (assertion.credential policy credential challenge).outcome = .error failure ↔
      (assertion.validate policy credential challenge).outcome = .error failure := by
  unfold Assertion.credential
  rw [outcome_bind]
  cases (assertion.validate policy credential challenge).outcome with
  | ok n => exact ⟨nofun, nofun⟩
  | error e =>
    show Except.error e = .error failure ↔ _
    rw [Except.error.injEq, Except.error.injEq]

/-- An assertion is accepted with a sign count if all checks hold and the count is the one in its authenticator data;
otherwise it fails as its first check that does not hold says. -/
theorem assertion_outcome_iff (assertion : Assertion) (policy : Policy) (credential : Credential)
    (challenge : Challenge) :
    (∀ n, (assertion.validate policy credential challenge).outcome = .ok n ↔
      (∀ check ∈ checks assertion policy credential challenge, check.holds) ∧
        n.toNat = AuthenticatorData.signCountAt assertion.authenticatorData) ∧
    ∀ failure, (assertion.validate policy credential challenge).outcome = .error failure ↔
      Check.FirstFailure (checks assertion policy credential challenge) failure := by
  have hd := validate_decidedBy assertion policy credential challenge
  have hlt := AuthenticatorData.signCountAt_lt assertion.authenticatorData
  refine ⟨fun n => ?_, fun failure => ?_⟩
  · have hn : UInt32.ofNat (AuthenticatorData.signCountAt assertion.authenticatorData) = n ↔
        n.toNat = AuthenticatorData.signCountAt assertion.authenticatorData := by
      rw [← UInt32.toNat_inj, UInt32.toNat_ofNat', Nat.mod_eq_of_lt hlt, eq_comm]
    rw [hd.outcome_ok_iff, Except.ok.injEq, hn]
  · rw [hd.outcome_error_iff]
    simp

end Assertion

end WebAuthn
