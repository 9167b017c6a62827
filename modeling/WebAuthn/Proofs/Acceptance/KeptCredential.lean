import WebAuthn.Attempt
import WebAuthn.Proofs.Acceptance.Genuine

/-!
# A credential that is kept in memory

A caller that keeps a credential presents anything to it, any number of times. Nothing but the sign count of the
credential changes, and the counts that it reaches count up.

* `Attempt.Fails`, `Attempt.Counts` — the two things that a call can do, and `Attempt.run_cases`: it does no other;
* `Credential.after`, `Credential.acceptedCounts` — the credential after a run of calls, and the counts that were
  accepted in it;
* `Credential.pairwise_acceptedCounts` — these counts over a run, by induction on the calls;
* `Credential.kept_credential_counts_up` — every call of every run, and every replay in it.
-/

namespace WebAuthn

open Audited

/-! ### Calls -/

namespace Attempt

def count (attempt : Attempt) : Nat :=
  AuthenticatorData.signCountAt attempt.assertion.authenticatorData

def message (attempt : Attempt) : Bytes :=
  attempt.assertion.authenticatorData ++ sha256 attempt.assertion.clientDataJson

/-- The call fails and keeps the credential as it is. -/
def Fails (attempt : Attempt) (stored : Credential) : Prop :=
  (∃ failure, (attempt.run stored).1.outcome = .error failure) ∧ (attempt.run stored).2 = stored

/-- The call succeeds on what the credential signed, and keeps the credential with the count in it. -/
structure Counts (attempt : Attempt) (stored : Credential) (n : UInt32) : Prop where
  succeeds : (attempt.run stored).1.outcome = .ok ()
  kept : (attempt.run stored).2.Recounted stored n
  count : n.toNat = attempt.count
  signed : (stored.publicKey.verifies attempt.assertion.signature attempt.message).outcome = .ok true
  up : stored.signCount = 0 ∨ stored.signCount < n

variable {attempt : Attempt} {stored : Credential} {n : UInt32}

theorem run_of_ok
    (h : (attempt.assertion.validate attempt.policy stored attempt.challenge).outcome = .ok n) :
    (attempt.run stored).1.outcome = .ok () ∧ (attempt.run stored).2.Recounted stored n := by
  rw [run, h]
  exact ⟨rfl, stored.recounted_withSignCount n⟩

theorem run_of_error {failure : Failure}
    (h : (attempt.assertion.validate attempt.policy stored attempt.challenge).outcome =
      .error failure) :
    (attempt.run stored).1.outcome = .error failure ∧ (attempt.run stored).2 = stored := by
  rw [run, h]
  exact ⟨rfl, rfl⟩

/-- All that a call can do. -/
theorem run_cases (attempt : Attempt) (stored : Credential) :
    attempt.Fails stored ∨ ∃ n, attempt.Counts stored n := by
  cases h : (attempt.assertion.validate attempt.policy stored attempt.challenge).outcome with
  | error failure =>
    obtain ⟨hfails, hkept⟩ := run_of_error h
    exact .inl ⟨⟨failure, hfails⟩, hkept⟩
  | ok n =>
    obtain ⟨hsucceeds, hkept⟩ := run_of_ok h
    obtain ⟨hcount, hsigned⟩ := Assertion.signed_of_validate h
    exact .inr ⟨n, hsucceeds, hkept, hcount, hsigned, Assertion.counts_of_validate h⟩

theorem Counts.le (h : attempt.Counts stored n) : stored.signCount ≤ n := by
  rw [UInt32.le_iff_toNat_le]
  obtain hzero | hlt := h.up
  · rw [hzero]
    exact Nat.zero_le _
  · exact Nat.le_of_lt (UInt32.lt_iff_toNat_lt.1 hlt)

/-- A count that the credential has reached is accepted no more. -/
theorem fails_of_le (hpos : stored.signCount ≠ 0) (hle : attempt.count ≤ stored.signCount.toNat) :
    attempt.Fails stored := by
  obtain hfails | ⟨n, h⟩ := attempt.run_cases stored
  · exact hfails
  · have hlt := UInt32.lt_iff_toNat_lt.1 (h.up.resolve_left hpos)
    rw [h.count] at hlt
    omega

end Attempt

/-! ### Runs of calls -/

namespace Credential

/-- The credential that is kept after a run of calls. -/
def after (credential : Credential) (attempts : List Attempt) : Credential :=
  attempts.foldl (fun stored attempt => (attempt.run stored).2) credential

/-- The sign counts of the calls of a run that succeed. -/
def acceptedCounts : Credential → List Attempt → List Nat
  | _, [] => []
  | stored, attempt :: rest =>
    match (attempt.run stored).1.outcome with
    | .ok () => attempt.count :: acceptedCounts (attempt.run stored).2 rest
    | .error _ => acceptedCounts (attempt.run stored).2 rest

variable {credential : Credential} {attempt : Attempt} {n : UInt32}

theorem after_cons (credential : Credential) (attempt : Attempt) (rest : List Attempt) :
    credential.after (attempt :: rest) = (attempt.run credential).2.after rest :=
  rfl

theorem after_append (credential : Credential) (before after : List Attempt) :
    credential.after (before ++ after) = (credential.after before).after after :=
  List.foldl_append

/-- The sign count is all that changes. -/
theorem recounted_after (credential : Credential) (attempts : List Attempt) :
    (credential.after attempts).Recounted credential (credential.after attempts).signCount := by
  induction attempts generalizing credential with
  | nil => exact .refl credential
  | cons attempt rest ih =>
    rw [after_cons]
    obtain ⟨_, hkept⟩ | ⟨n, h⟩ := attempt.run_cases credential
    · rw [hkept]
      exact ih credential
    · exact (ih (attempt.run credential).2).trans h.kept

theorem signCount_le_after (credential : Credential) (attempts : List Attempt) :
    credential.signCount ≤ (credential.after attempts).signCount := by
  induction attempts generalizing credential with
  | nil => exact UInt32.le_refl _
  | cons attempt rest ih =>
    rw [after_cons]
    obtain ⟨_, hkept⟩ | ⟨n, h⟩ := attempt.run_cases credential
    · rw [hkept]
      exact ih credential
    · have hnext := ih (attempt.run credential).2
      rw [h.kept.signCount_eq] at hnext
      exact UInt32.le_trans h.le hnext

/-- The counts that are accepted and not zero count up from the one that the credential has. -/
theorem pairwise_acceptedCounts (credential : Credential) (attempts : List Attempt) :
    (credential.signCount.toNat ::
      (credential.acceptedCounts attempts).filter (· ≠ 0)).Pairwise (· < ·) := by
  induction attempts generalizing credential with
  | nil => exact List.pairwise_singleton _ _
  | cons attempt rest ih =>
    obtain ⟨⟨failure, hfails⟩, hkept⟩ | ⟨n, h⟩ := attempt.run_cases credential
    · rw [acceptedCounts, hfails, hkept]
      exact ih credential
    · rw [acceptedCounts, h.succeeds]
      show (_ :: (attempt.count :: acceptedCounts (attempt.run credential).2 rest).filter _).Pairwise _
      have hnext : (attempt.count ::
          (acceptedCounts (attempt.run credential).2 rest).filter (· ≠ 0)).Pairwise (· < ·) := by
        rw [← h.count, ← h.kept.signCount_eq]
        exact ih (attempt.run credential).2
      have hup : credential.signCount.toNat = 0 ∨ credential.signCount.toNat < attempt.count := by
        rw [← h.count]
        exact h.up.imp (congrArg UInt32.toNat) UInt32.lt_iff_toNat_lt.1
      by_cases hzero : attempt.count = 0
      · -- a count of zero is accepted only while the credential has none
        have hsame : credential.signCount.toNat = attempt.count := by omega
        rw [List.filter_cons_of_neg (by simpa using hzero), hsame]
        exact hnext
      · have hlt : credential.signCount.toNat < attempt.count := by omega
        rw [List.filter_cons_of_pos (by simpa using hzero)]
        refine List.pairwise_cons.2 ⟨List.forall_mem_cons.2 ⟨hlt, fun count hc => ?_⟩, hnext⟩
        exact Nat.lt_trans hlt ((List.pairwise_cons.1 hnext).1 count hc)

/-- What was accepted with a count fails from then on, whatever it is presented with. -/
theorem fails_after {stored : Credential} (h : attempt.Counts stored n) (hpos : attempt.count ≠ 0)
    (between : List Attempt) {again : Attempt}
    (hdata : again.assertion.authenticatorData = attempt.assertion.authenticatorData) :
    again.Fails (stored.after (attempt :: between)) := by
  have hreached : attempt.count ≤ (stored.after (attempt :: between)).signCount.toNat := by
    have hle := signCount_le_after (attempt.run stored).2 between
    rw [h.kept.signCount_eq] at hle
    rw [after_cons, ← h.count]
    exact UInt32.le_iff_toNat_le.1 hle
  refine Attempt.fails_of_le (fun hzero => ?_) ?_
  · rw [hzero] at hreached
    exact hpos (Nat.le_zero.1 hreached)
  · rw [Attempt.count, hdata]
    exact hreached

/-- A credential under any run of calls. At any point of the run it is the credential of the start but for its sign
count, which has not gone down since; the next call, whatever it presents, either fails and leaves the credential as it
is, or succeeds and puts the count of the signed authenticator data in place; the counts other than zero that were
accepted have counted up; and authenticator data that was accepted with such a count is accepted no more. -/
theorem kept_credential_counts_up (credential : Credential) (attempts : List Attempt) :
    (credential.after attempts).Recounted credential (credential.after attempts).signCount ∧
    (∀ before after, attempts = before ++ after →
      (credential.after before).signCount ≤ (credential.after attempts).signCount) ∧
    (∀ attempt : Attempt,
      attempt.Fails (credential.after attempts) ∨ ∃ n, attempt.Counts (credential.after attempts) n) ∧
    (credential.signCount.toNat ::
      (credential.acceptedCounts attempts).filter (· ≠ 0)).Pairwise (· < ·) ∧
    ∀ (before between : List Attempt) (earlier again : Attempt),
      attempts = before ++ earlier :: between →
      (earlier.run (credential.after before)).1.outcome = .ok () → earlier.count ≠ 0 →
      again.assertion.authenticatorData = earlier.assertion.authenticatorData →
      again.Fails (credential.after attempts) := by
  refine ⟨credential.recounted_after attempts, ?_, fun attempt => attempt.run_cases _,
    credential.pairwise_acceptedCounts attempts, ?_⟩
  · intro before after h
    rw [h, after_append]
    exact signCount_le_after _ after
  · intro before between earlier again h hok hpos hdata
    obtain ⟨⟨failure, hfails⟩, _⟩ | ⟨n, hcounts⟩ := earlier.run_cases (credential.after before)
    · rw [hfails] at hok
      cases hok
    · rw [h, after_append]
      exact fails_after hcounts hpos between hdata

/-- What an authenticator presents with the count 7, with any challenge. -/
def sampleAttempt (challenge : Challenge) : Attempt :=
  .authenticateResponse RelyingParty.sampleParty.policy
    (RelyingParty.sampleAuthenticator.present ⟨Registration.sampleChallenge, .zeros, 7⟩) challenge

/-- It is accepted once, with the challenge that was signed, and fails afterwards with every challenge. -/
theorem sample_replay_fails :
    ∃ credential : Credential,
      ((sampleAttempt Registration.sampleChallenge).run credential).1.outcome = .ok () ∧
        ∀ challenge, (sampleAttempt challenge).Fails
          (credential.after [sampleAttempt Registration.sampleChallenge]) := by
  have suits := RelyingParty.sample_suits
  have hsigns := RelyingParty.sample_signsFor _ (List.mem_cons_of_mem _ List.mem_cons_self)
  have hcount : (sampleAttempt Registration.sampleChallenge).count = 7 :=
    (suits.laidOut_assertionDraft 7).fields.signCount.symm
  have hagain : ∀ (credential : Credential) (first again : Attempt),
      (first.run credential).1.outcome = .ok () → first.count ≠ 0 →
      again.assertion.authenticatorData = first.assertion.authenticatorData →
      again.Fails (credential.after [first]) := by
    intro credential first again hok hpos hdata
    obtain ⟨_, _, _, _, hreplay⟩ := kept_credential_counts_up credential [first]
    exact hreplay [] [] first again rfl hok hpos hdata
  have hvalid : ((RelyingParty.sampleAuthenticator.present
      ⟨Registration.sampleChallenge, .zeros, 7⟩).validate RelyingParty.sampleParty.policy
        (RelyingParty.sampleAuthenticator.registered (.ofList []) ⟨.zeros⟩)
        Registration.sampleChallenge).outcome = .ok 7 :=
    (suits.validate_present hsigns rfl).outcome_ok_iff.2
      ⟨List.forall_mem_singleton.2 (.inl rfl), rfl⟩
  obtain ⟨hok, _⟩ := @Attempt.run_of_ok (sampleAttempt Registration.sampleChallenge) _ 7 hvalid
  refine ⟨_, hok, fun challenge => hagain _ _ _ hok ?_ rfl⟩
  rw [hcount]
  decide

end Credential

end WebAuthn
