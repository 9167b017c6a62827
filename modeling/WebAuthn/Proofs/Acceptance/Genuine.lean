import Mathlib.Data.List.Induction
import WebAuthn.Proofs.Acceptance.Assertion
import WebAuthn.Proofs.Acceptance.Registration
import WebAuthn.Proofs.Authenticator.Software
import WebAuthn.Proofs.Text.Base64Url
import WebAuthn.RelyingParty

/-!
# Genuine users are accepted

An authenticator that suits the policy registers its credential and uses it any number of times. Signatures are the one
thing that is assumed: that what the key pair signs verifies under its public key.

* `Suits.validate_register` — what its registration attests, for every challenge;
* `Suits.validate_present` — of all checks of a signed use, the sign count alone decides;
* `RelyingParty.afterUses` — the credential after a run of uses; `afterUses_registered` is the run by induction;
* `RelyingParty.authenticate_again` — a count that was reached is refused;
* `RelyingParty.genuine_uses_accepted` — the registration, every prefix of a run and every replay in it.
-/

namespace WebAuthn

open Audited

/-! ### Client data -/

/-- From an allowed origin all checks of the client data hold. -/
theorem ClientData.checks_clientDataText {policy : OriginPolicy} {origin : String}
    (h : origin ∈ policy.allowedOrigins) (ceremony : Ceremony) (challenge : Challenge) :
    ∀ check ∈ checks (clientDataText ceremony.name challenge.bytes origin) policy ceremony challenge,
      check.holds := by
  have hread := read?_clientDataText ceremony.name challenge.bytes origin
  have hdecode := Base64Url.decode_encode challenge.bytes
  have hspells := fun property => (spells_iff hread property).1
  simp only [checks, List.forall_mem_cons]
  exact ⟨⟨_, hread⟩, hspells _ rfl, hspells _ hdecode, hspells _ h, hspells _ nofun,
    List.forall_mem_nil _⟩

/-! ### Registration -/

/-- A use of a credential: the challenge, the salt of the signature and the sign count that is reported. -/
structure Use where
  challenge : Challenge
  salt : FixedBytes 32
  signCount : UInt32

namespace SoftwareAuthenticator

def registered (authenticator : SoftwareAuthenticator) (transports : TextSet) (owner : Uuid) :
    Credential :=
  ⟨authenticator.credentialId, authenticator.keyPair.publicKey, 0, transports, owner,
    StatementVerifier.noneName⟩

/-- What the authenticator presents for a use to a party that knows which credential is used. -/
def present (authenticator : SoftwareAuthenticator) (use : Use) : Assertion :=
  { authenticator.assert use.salt use.challenge use.signCount with
    credentialId := none
    userHandle := none }

def message (authenticator : SoftwareAuthenticator) (use : Use) : Bytes :=
  (authenticator.present use).authenticatorData ++ sha256 (authenticator.present use).clientDataJson

/-- The signature for a use verifies under the public key. -/
def SignsFor (authenticator : SoftwareAuthenticator) (use : Use) : Prop :=
  (authenticator.keyPair.publicKey.verifies
    (authenticator.keyPair.sign use.salt (authenticator.message use))
    (authenticator.message use)).outcome = .ok true

variable {authenticator : SoftwareAuthenticator} {policy : Policy}

/-- The registration attests the key under the id, with the count zero and without proof. -/
theorem Suits.validate_register (h : authenticator.Suits policy) (challenge : Challenge) :
    ((authenticator.register challenge).validate policy .standard challenge).outcome =
      .ok ⟨authenticator.credentialId, authenticator.keyPair.publicKey, 0,
        StatementVerifier.noneName⟩ := by
  have hobject := h.laidOut_attestationObject challenge
  have hcarries := fun property => (Registration.carries_iff hobject property).1
  have hallows : Registration.Allows policy authenticator.keyPair.publicKey := by
    rw [← Registration.allows_iff, authenticator.keyPair.algorithm_publicKey]
    exact h.allowed
  refine (Registration.validate_decidedBy _ policy challenge .standard).outcome_ok_iff.2 ⟨?_, ?_⟩
  · simp only [Registration.checks, List.forall_mem_append, List.forall_mem_cons]
    refine ⟨ClientData.checks_clientDataText h.origin .registration challenge, ⟨_, hobject⟩,
      hcarries _ ?_, hcarries _ ?_, hcarries _ fun hr => ?_, hcarries _ ⟨_, rfl⟩,
      hcarries _ ⟨_, rfl, hallows⟩, hcarries _ ⟨.none, rfl⟩, List.forall_mem_nil _⟩
    · show sha256 (Utf8.encode authenticator.rpId) = _
      rw [h.rpId]
    · exact authenticator.registrationDraft.userPresent_written.trans h.userPresent
    · exact authenticator.registrationDraft.userVerified_written.trans (h.userVerified hr)
  · exact (Registration.finish_eq_ok .standard).2
      ⟨authenticator.attestationObject, ⟨.zeros, authenticator.credentialId,
        authenticator.keyPair.publicKey⟩, .none, hobject, rfl, rfl, rfl, rfl⟩

/-! ### One use -/

section Presenting

variable {use : Use} {credential : Credential}

/-- Of all checks of a use that is signed, the sign count alone decides. -/
theorem Suits.validate_present (h : authenticator.Suits policy) (hsigned : authenticator.SignsFor use)
    (hkey : credential.publicKey = authenticator.keyPair.publicKey) :
    ((authenticator.present use).validate policy credential use.challenge).DecidedBy
      [⟨credential.signCount = 0 ∨ credential.signCount.toNat < use.signCount.toNat,
        .possibleCloneDetected⟩] (.ok use.signCount) := by
  let draft := authenticator.assertionDraft use.signCount
  have hlaid : draft.written.LaidOut draft.encode := h.laidOut_assertionDraft use.signCount
  have hfields := hlaid.fields
  have hunnamed : ∀ {expected : Bytes}, ∀ named ∈ (none : Option Bytes), named = expected :=
    fun named hn => absurd hn (Option.not_mem_none named)
  have hclient :=
    @ClientData.checks_clientDataText policy.origins _ h.origin .authentication use.challenge
  have hbare : AuthenticatorData.Bare draft.encode :=
    hlaid.bare (h.wellFormed_assertionDraft use.signCount).bit_attested
  have hrpId : draft.encode.take 32 = sha256 (Utf8.encode policy.rpId) := by
    rw [← hfields.rpIdHash, ← h.rpId]
    rfl
  have hpresent : draft.written.flags.userPresent = true :=
    draft.userPresent_written.trans h.userPresent
  have hverified : policy.userVerification = .required → draft.written.flags.userVerified = true :=
    fun hr => draft.userVerified_written.trans (h.userVerified hr)
  have hsignature : (credential.publicKey.verifies (authenticator.present use).signature
      (authenticator.message use)).outcome = .ok true := by
    rw [hkey]
    exact hsigned
  have hdecided :=
    Assertion.validate_decidedBy (authenticator.present use) policy credential use.challenge
  have hdata : (authenticator.present use).authenticatorData = draft.encode := rfl
  have hcount : AuthenticatorData.signCountAt draft.encode = use.signCount.toNat :=
    hfields.signCount.symm
  rw [Assertion.checks, hdata, hcount, ← hfields.flags, UInt32.ofNat_toNat] at hdecided
  -- the checks hold one after the other, until the one of the sign count is left
  have hdecided := (hdecided.of_cons hunnamed).of_append hclient
  have hdecided := ((hdecided.of_cons hbare).of_cons hrpId).of_cons hpresent
  exact ((hdecided.of_cons hverified).of_cons hunnamed).of_cons hsignature

/-- The credential after a use that is signed, if the sign count does not stand in the way. -/
theorem Suits.authenticate_present (h : authenticator.Suits policy)
    (hsigned : authenticator.SignsFor use)
    (hkey : credential.publicKey = authenticator.keyPair.publicKey) (registry : StatementRegistry) :
    (RelyingParty.authenticateCredential ⟨policy, registry⟩ (authenticator.present use) credential
      use.challenge).DecidedBy
        [⟨credential.signCount = 0 ∨ credential.signCount.toNat < use.signCount.toNat,
          .possibleCloneDetected⟩] (.ok (credential.withSignCount use.signCount)) :=
  (h.validate_present hsigned hkey).bind (decidedBy_nil _)

end Presenting

end SoftwareAuthenticator

/-! ### Runs -/

namespace Use

/-- The sign count of the last use; before the first use it is zero. -/
def lastCount (uses : List Use) : UInt32 :=
  (uses.getLast?.map Use.signCount).getD 0

/-- The authenticator never counts, or it counts up from one or more. -/
def CountsUp (uses : List Use) : Prop :=
  (∀ use ∈ uses, use.signCount = 0) ∨
    (∀ use ∈ uses, 1 ≤ use.signCount) ∧
      uses.Pairwise fun earlier later => earlier.signCount < later.signCount

variable {before after uses : List Use} {use : Use}

theorem lastCount_append_singleton (before : List Use) (use : Use) :
    lastCount (before ++ [use]) = use.signCount := by
  rw [lastCount, List.getLast?_concat]
  rfl

theorem CountsUp.of_append (h : CountsUp (before ++ after)) : CountsUp before := by
  obtain hzero | ⟨hpos, hup⟩ := h
  · exact .inl fun use hu => hzero use (List.mem_append_left after hu)
  · exact .inr ⟨fun use hu => hpos use (List.mem_append_left after hu), (List.pairwise_append.1 hup).1⟩

/-- The next count is above the last one, unless the authenticator has not counted. -/
theorem CountsUp.lastCount_lt (h : CountsUp (before ++ [use])) :
    lastCount before = 0 ∨ (lastCount before).toNat < use.signCount.toNat := by
  cases before using List.reverseRecOn with
  | nil => exact .inl rfl
  | append_singleton front last =>
    have hlast : last ∈ front ++ [last] := List.mem_append_right front List.mem_cons_self
    rw [lastCount_append_singleton]
    obtain hzero | ⟨_, hup⟩ := h
    · exact .inl (hzero last (List.mem_append_left _ hlast))
    · exact .inr ((List.pairwise_append.1 hup).2.2 last hlast use List.mem_cons_self)

/-- No count is above the last one. -/
theorem CountsUp.le_lastCount (h : CountsUp uses) (hu : use ∈ uses) :
    use.signCount.toNat ≤ (lastCount uses).toNat := by
  cases uses using List.reverseRecOn with
  | nil => cases hu
  | append_singleton before last =>
    rw [lastCount_append_singleton]
    obtain hzero | ⟨_, hup⟩ := h
    · rw [hzero use hu]
      exact Nat.zero_le _
    obtain hbefore | hlast := List.mem_append.1 hu
    · exact Nat.le_of_lt ((List.pairwise_append.1 hup).2.2 use hbefore last List.mem_cons_self)
    · rw [List.mem_singleton.1 hlast]

end Use

namespace RelyingParty

/-- The credential after an authenticator used it, or why a use was refused. -/
def afterUses (party : RelyingParty) (authenticator : SoftwareAuthenticator) (credential : Credential)
    (uses : List Use) : Except Failure Credential :=
  uses.foldlM (fun credential use =>
    (party.authenticateCredential (authenticator.present use) credential use.challenge).outcome) credential

variable {party : RelyingParty} {authenticator : SoftwareAuthenticator} {transports : TextSet}
  {owner : Uuid}

theorem afterUses_append_singleton {credential reached : Credential} {before : List Use}
    (h : party.afterUses authenticator credential before = .ok reached) (use : Use) :
    party.afterUses authenticator credential (before ++ [use]) =
      (party.authenticateCredential (authenticator.present use) reached use.challenge).outcome := by
  unfold afterUses at *
  rw [List.foldlM_append, h]
  show (party.authenticateCredential (authenticator.present use) reached use.challenge).outcome >>= pure = _
  exact bind_pure _

/-- Uses that are signed and count up are all accepted, and leave the last count. -/
theorem afterUses_registered (suits : authenticator.Suits party.policy) {uses : List Use}
    (hcounts : Use.CountsUp uses) (hsigned : ∀ use ∈ uses, authenticator.SignsFor use) :
    party.afterUses authenticator (authenticator.registered transports owner) uses =
      .ok ((authenticator.registered transports owner).withSignCount (Use.lastCount uses)) := by
  -- the credential before the last use is known from the uses before it
  induction uses using List.reverseRecOn with
  | nil => rfl
  | append_singleton before use ih =>
    have hbefore := ih hcounts.of_append fun other ho => hsigned other (List.mem_append_left _ ho)
    have huse : authenticator.SignsFor use := hsigned use (List.mem_append_right before List.mem_cons_self)
    rw [afterUses_append_singleton hbefore, Use.lastCount_append_singleton]
    exact (suits.authenticate_present huse rfl party.registry).outcome_ok_iff.2
      ⟨List.forall_mem_singleton.2 hcounts.lastCount_lt, rfl⟩

/-- A use is refused once its count was reached. -/
theorem authenticate_again (suits : authenticator.Suits party.policy) {use : Use}
    (hsigned : authenticator.SignsFor use) {reached : UInt32} (hpos : use.signCount ≠ 0)
    (hle : use.signCount.toNat ≤ reached.toNat) :
    (party.authenticateCredential (authenticator.present use)
      ((authenticator.registered transports owner).withSignCount reached) use.challenge).outcome =
        .error .possibleCloneDetected := by
  have hblocked : ¬ (reached = 0 ∨ reached.toNat < use.signCount.toNat) := by
    intro h
    obtain rfl | hlt := h
    · exact hpos (UInt32.toNat_inj.1 (Nat.le_zero.1 hle))
    · omega
  exact (suits.authenticate_present hsigned rfl party.registry).outcome_error_iff.2
    (.inl (.here hblocked))

/-- An authenticator that suits the policy registers its credential for any challenge. Each of its uses is accepted and
leaves exactly its count, as long as the counts are all zero or count up and what is signed verifies; and after every
prefix of the run, each of its uses that has a count is refused when it is presented again. -/
theorem genuine_uses_accepted (hstandard : party.registry = .standard)
    (suits : authenticator.Suits party.policy) (challenge : Challenge) (transports : TextSet)
    (owner : Uuid) {uses : List Use} (hcounts : Use.CountsUp uses)
    (hsigned : ∀ use ∈ uses, authenticator.SignsFor use) :
    (party.createCredential (authenticator.register challenge) challenge transports owner).outcome =
        .ok (authenticator.registered transports owner) ∧
      ∀ done, done <+: uses →
        party.afterUses authenticator (authenticator.registered transports owner) done =
            .ok ((authenticator.registered transports owner).withSignCount (Use.lastCount done)) ∧
          ∀ use ∈ done, use.signCount ≠ 0 →
            (party.authenticateCredential (authenticator.present use)
              ((authenticator.registered transports owner).withSignCount (Use.lastCount done))
              use.challenge).outcome = .error .possibleCloneDetected := by
  refine ⟨?_, fun done hdone => ?_⟩
  · have hvalidated := suits.validate_register challenge
    rw [← hstandard] at hvalidated
    exact outcome_bind_ok.2 ⟨_, hvalidated, rfl⟩
  · obtain ⟨later, rfl⟩ := hdone
    have hcounts := hcounts.of_append
    have hsigned : ∀ use ∈ done, authenticator.SignsFor use :=
      fun use hu => hsigned use (List.mem_append_left later hu)
    refine ⟨afterUses_registered suits hcounts hsigned, fun use hu hpos => ?_⟩
    exact authenticate_again suits (hsigned use hu) hpos (hcounts.le_lastCount hu)

/-! ### An authenticator -/

/-- An authenticator with an RSA key whose primes are one below powers of two, on a page whose origin has to be escaped. -/
def sampleAuthenticator : SoftwareAuthenticator :=
  let (p, q) := (Nat.pow 2 1279 - 1, Nat.pow 2 2203 - 1)
  let secret := (30861 * ((p - 1) * (q - 1)) + 1) / 65537
  { Registration.sampleAuthenticator with
    origin := "https://a.test/\"\u00e9\n\""
    keyPair := .rs256 ⟨⟨p * q, 65537⟩, secret, (p, q)⟩ }

def sampleParty : RelyingParty :=
  ⟨.standard sampleAuthenticator.rpId [sampleAuthenticator.origin], .standard⟩

/-- Two uses; the authenticator is used elsewhere in between. -/
def sampleUses : List Use :=
  [⟨Registration.sampleChallenge, .zeros, 1⟩, ⟨Registration.sampleChallenge, .zeros, 7⟩]

set_option maxRecDepth 100000 in
theorem sample_suits : sampleAuthenticator.Suits sampleParty.policy where
  rpId := rfl
  origin := List.mem_cons_self
  credentialId := by decide
  usable := by
    refine ⟨toOption_outcome_iff.1 (by decide +kernel), fun key hkey => ?_⟩
    obtain hkey | hkey := hkey
    · cases hkey
      decide +kernel
    · cases hkey
  allowed := by decide
  userPresent := by decide
  userVerified := by decide
  attestedClear := by decide
  extensionsClear := by decide
  backup := by decide

set_option maxRecDepth 100000 in
theorem sample_signsFor : ∀ use ∈ sampleUses, sampleAuthenticator.SignsFor use := by
  have hfirst : sampleAuthenticator.SignsFor ⟨Registration.sampleChallenge, .zeros, 1⟩ :=
    toOption_outcome_iff.1 (by decide +kernel)
  have hsecond : sampleAuthenticator.SignsFor ⟨Registration.sampleChallenge, .zeros, 7⟩ :=
    toOption_outcome_iff.1 (by decide +kernel)
  exact List.forall_mem_cons.2 ⟨hfirst, List.forall_mem_singleton.2 hsecond⟩

/-- The authenticator registers, is accepted with both counts, and neither use is accepted again. -/
theorem sample_uses_accepted :
    (sampleAuthenticator.Suits sampleParty.policy ∧ Use.CountsUp sampleUses ∧
      ∀ use ∈ sampleUses, sampleAuthenticator.SignsFor use) ∧
    (sampleParty.createCredential (sampleAuthenticator.register Registration.sampleChallenge)
      Registration.sampleChallenge (.ofList []) ⟨.zeros⟩).outcome =
        .ok (sampleAuthenticator.registered (.ofList []) ⟨.zeros⟩) ∧
    sampleParty.afterUses sampleAuthenticator (sampleAuthenticator.registered (.ofList []) ⟨.zeros⟩)
      sampleUses = .ok ((sampleAuthenticator.registered (.ofList []) ⟨.zeros⟩).withSignCount 7) ∧
    ∀ use ∈ sampleUses,
      (sampleParty.authenticateCredential (sampleAuthenticator.present use)
        ((sampleAuthenticator.registered (.ofList []) ⟨.zeros⟩).withSignCount 7)
        use.challenge).outcome = .error .possibleCloneDetected := by
  have hcounts : Use.CountsUp sampleUses := .inr (by decide)
  have hpos : ∀ use ∈ sampleUses, use.signCount ≠ 0 := by decide
  obtain ⟨hcreated, hruns⟩ := @genuine_uses_accepted sampleParty _ rfl sample_suits
    Registration.sampleChallenge (.ofList []) ⟨.zeros⟩ _ hcounts sample_signsFor
  obtain ⟨hrun, hagain⟩ := hruns sampleUses (List.prefix_refl _)
  exact ⟨⟨sample_suits, hcounts, sample_signsFor⟩, hcreated, hrun, fun use hu => hagain use hu (hpos use hu)⟩

end RelyingParty

end WebAuthn
