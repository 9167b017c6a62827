import WebAuthn.Proofs.Interleaving.Ceremony
import WebAuthn.Proofs.Store.Credentials
import WebAuthn.Script

/-!
# Ceremonies with stores that answer anything

Nothing is assumed of the stores here: they may answer with the record of somebody else, with a response that belongs
to another request, or not at all. A call succeeds on one sequence of replies only, and every other one ends it.

* `Message.failure?` — what the reply to a request means to a call, for every request and every reply;
* `Call.Accepts`, `Call.Refuses` — the transcripts on which a call succeeds and fails, one constructor for each way;
* `Call.ends_ok_iff_accepts`, `Call.ends_error_iff_refuses` — there are no others;
* `Exchange.transcript`, `Exchange.ends_run` — the requests of a run with any backend, and the replies;
* `Call.fails_closed` — the three together, for every backend.
-/

namespace WebAuthn

open Audited Exchange

/-! ### Replies -/

/-- Why a call cannot go on after the reply; none if it is the one that the call waits for. -/
def Message.failure? : Message → Option Failure
  | .challenges .issue (.answered (.issued _)) => none
  | .challenges (.consume _) (.answered (.consumed _)) => none
  | .challenges (.consume _) (.answered .rejected) => some .challengeRejected
  | .challenges _ _ => some .storeUnavailable
  | .credentials (.find _) (.answered (.credential _)) => none
  | .credentials (.find _) (.answered .stored) => some .storeUnavailable
  | .credentials _ (.answered .stored) => none
  | .credentials _ (.answered .notFound) => some .unknownCredential
  | .credentials _ (.answered .conflict) => some .credentialConflict
  | .credentials _ _ => some .storeUnavailable

namespace Exchange

variable {t : List Message} {failure : Failure}

theorem ends_consume_error {challenge : Challenge} :
    (consume challenge).Ends t (.error failure) ↔
      ∃ reply, (Message.challenges (.consume challenge) reply).failure? = some failure ∧
        t = [.challenges (.consume challenge) reply] := by
  unfold consume
  rw [ends_askChallenges_bind]
  refine exists_congr fun reply => ?_
  cases reply with
  | answered response =>
    cases response <;> simp [ends_pure, ends_refuse, Message.failure?, and_assoc]
  | notSent => simp [Message.failure?, and_assoc]
  | unanswered => simp [Message.failure?, and_assoc]

theorem ends_find_error {id : Bytes} :
    (find id).Ends t (.error failure) ↔
      ∃ reply, (Message.credentials (.find id) reply).failure? = some failure ∧
        t = [.credentials (.find id) reply] := by
  unfold find
  rw [ends_askCredentials_bind]
  refine exists_congr fun reply => ?_
  cases reply with
  | answered response =>
    cases response <;> simp [ends_pure, ends_refuse, unexpected, Message.failure?, and_assoc]
  | notSent => simp [Message.failure?, and_assoc]
  | unanswered => simp [Message.failure?, and_assoc]

/-- Taking a challenge back in front of an exchange. -/
theorem ends_consume_bind_error {α : Type} {challenge : Challenge} {f : Challenge → Exchange α} :
    (consume challenge >>= f).Ends t (.error failure) ↔
      (∃ reply, (Message.challenges (.consume challenge) reply).failure? = some failure ∧
        t = [.challenges (.consume challenge) reply]) ∨
      ∃ taken rest, t = .challenges (.consume challenge) (.answered (.consumed taken)) :: rest ∧
        (f taken).Ends rest (.error failure) := by
  rw [ends_single_bind_error fun _ _ => ends_consume, ends_consume_error]

/-- Finding a credential in front of an exchange. -/
theorem ends_find_bind_error {α : Type} {id : Bytes} {f : Credential → Exchange α} :
    (find id >>= f).Ends t (.error failure) ↔
      (∃ reply, (Message.credentials (.find id) reply).failure? = some failure ∧
        t = [.credentials (.find id) reply]) ∨
      ∃ record rest, t = .credentials (.find id) (.answered (.credential record)) :: rest ∧
        (f record).Ends rest (.error failure) := by
  rw [ends_single_bind_error fun _ _ => ends_find, ends_find_error]

theorem ends_askToStore_error {request : CredentialRequest} (h : request.writes = true) :
    (askToStore request).Ends t (.error failure) ↔
      ∃ reply, (Message.credentials request reply).failure? = some failure ∧
        t = [.credentials request reply] := by
  unfold askToStore
  rw [ends_askCredentials_bind]
  refine exists_congr fun reply => ?_
  cases request with
  | find id => cases h
  | _ =>
    cases reply with
    | answered response =>
      cases response <;> simp [ends_pure, ends_refuse, unexpected, Message.failure?, and_assoc]
    | notSent => simp [Message.failure?, and_assoc]
    | unanswered => simp [Message.failure?, and_assoc]

/-- A request to store, in front of a value. -/
theorem ends_askToStore_pure_error {α : Type} {request : CredentialRequest} {a : α}
    (h : request.writes = true) :
    (askToStore request >>= fun _ => pure a).Ends t (.error failure) ↔
      ∃ reply, (Message.credentials request reply).failure? = some failure ∧
        t = [.credentials request reply] := by
  rw [ends_bind_error, ends_askToStore_error h]
  refine or_iff_left fun hpure => ?_
  obtain ⟨_, _, _, _, _, hp⟩ := hpure
  cases (ends_pure.1 hp).2

end Exchange

namespace Call

variable {call : Call} {before after t : List Message} {message : Message} {credential : Credential}
  {failure : Failure}

/-! ### Calls that succeed -/

/-- The call succeeds with the credential: its challenge is handed over, its payload can be read and passes all checks,
and what it has stored is stored. The record that an authentication is given is the one that the payload names. -/
inductive Accepts : Call → List Message → Credential → Prop where
  | register {party : RelyingParty} {response : RegistrationResponse} {challenge taken : Challenge}
      {owner : Uuid} {registration : Registration} {credential : Credential} :
      (RelyingParty.registrationOf response).outcome = .ok registration →
      (party.createCredential registration taken response.transportSet owner).outcome =
        .ok credential →
      Accepts (.register party response challenge owner)
        [.challenges (.consume challenge) (.answered (.consumed taken)),
          .credentials (.insert credential) (.answered .stored)]
        credential
  | authenticate {party : RelyingParty} {response : AuthenticationResponse}
      {challenge taken : Challenge} {id : Bytes} {assertion : Assertion} {record credential : Credential}
      {n : UInt32} :
      (RelyingParty.assertionOf response).outcome = .ok (id, assertion) →
      response.credentialIdBytes.outcome = .ok id →
      record.id = id →
      (assertion.validate party.policy record taken).outcome = .ok n →
      credential.Recounted record n →
      Accepts (.authenticate party response challenge)
        [.challenges (.consume challenge) (.answered (.consumed taken)),
          .credentials (.find id) (.answered (.credential record)),
          .credentials (.updateSignCount record.id record.signCount n) (.answered .stored)]
        credential

theorem ends_ok_iff_accepts :
    call.exchange.Ends t (.ok credential) ↔ call.Accepts t credential := by
  constructor
  · intro h
    cases call with
    | register party response challenge owner =>
      obtain ⟨taken, registration, hr, hc, rfl⟩ := RelyingParty.ends_register.1 h
      exact .register hr hc
    | authenticate party response challenge =>
      obtain ⟨taken, id, assertion, record, ha, hu, rfl⟩ := RelyingParty.ends_authenticate.1 h
      obtain ⟨hnamed, hid⟩ := RelyingParty.id_of_authenticate ha hu
      obtain ⟨n, hn, rfl⟩ := Assertion.credential_eq_ok.1 hu
      exact .authenticate ha hnamed hid hn (record.recounted_withSignCount n)
  · intro h
    cases h with
    | register hr hc => exact RelyingParty.ends_register.2 ⟨_, _, hr, hc, rfl⟩
    | authenticate ha _ _ hn hcredential =>
      obtain rfl := Credential.recounted_iff.1 hcredential
      exact RelyingParty.ends_authenticate.2
        ⟨_, _, _, _, ha, Assertion.credential_eq_ok.2 ⟨_, hn, rfl⟩, rfl⟩

/-! ### Calls that fail -/

/-- The call fails: with what an unexpected reply means, or with the failure of the payload or of a check. Nothing is
asked after that. -/
inductive Refuses : Call → List Message → Failure → Prop where
  | challenge {call : Call} {reply : Reply ChallengeResponse} {failure : Failure} :
      (Message.challenges (.consume call.challenge) reply).failure? = some failure →
      Refuses call [.challenges (.consume call.challenge) reply] failure
  | registrationPayload {party : RelyingParty} {response : RegistrationResponse}
      {challenge taken : Challenge} {owner : Uuid} {failure : Failure} :
      (RelyingParty.registrationOf response).outcome = .error failure →
      Refuses (.register party response challenge owner)
        [.challenges (.consume challenge) (.answered (.consumed taken))] failure
  | registrationChecks {party : RelyingParty} {response : RegistrationResponse}
      {challenge taken : Challenge} {owner : Uuid} {registration : Registration} {failure : Failure} :
      (RelyingParty.registrationOf response).outcome = .ok registration →
      (party.createCredential registration taken response.transportSet owner).outcome =
        .error failure →
      Refuses (.register party response challenge owner)
        [.challenges (.consume challenge) (.answered (.consumed taken))] failure
  | insert {party : RelyingParty} {response : RegistrationResponse} {challenge taken : Challenge}
      {owner : Uuid} {registration : Registration} {credential : Credential}
      {reply : Reply CredentialResponse} {failure : Failure} :
      (RelyingParty.registrationOf response).outcome = .ok registration →
      (party.createCredential registration taken response.transportSet owner).outcome =
        .ok credential →
      (Message.credentials (.insert credential) reply).failure? = some failure →
      Refuses (.register party response challenge owner)
        [.challenges (.consume challenge) (.answered (.consumed taken)),
          .credentials (.insert credential) reply] failure
  | assertionPayload {party : RelyingParty} {response : AuthenticationResponse}
      {challenge taken : Challenge} {failure : Failure} :
      (RelyingParty.assertionOf response).outcome = .error failure →
      Refuses (.authenticate party response challenge)
        [.challenges (.consume challenge) (.answered (.consumed taken))] failure
  | find {party : RelyingParty} {response : AuthenticationResponse} {challenge taken : Challenge}
      {id : Bytes} {assertion : Assertion} {reply : Reply CredentialResponse} {failure : Failure} :
      (RelyingParty.assertionOf response).outcome = .ok (id, assertion) →
      (Message.credentials (.find id) reply).failure? = some failure →
      Refuses (.authenticate party response challenge)
        [.challenges (.consume challenge) (.answered (.consumed taken)),
          .credentials (.find id) reply] failure
  | assertionChecks {party : RelyingParty} {response : AuthenticationResponse}
      {challenge taken : Challenge} {id : Bytes} {assertion : Assertion} {record : Credential}
      {failure : Failure} :
      (RelyingParty.assertionOf response).outcome = .ok (id, assertion) →
      (assertion.validate party.policy record taken).outcome = .error failure →
      Refuses (.authenticate party response challenge)
        [.challenges (.consume challenge) (.answered (.consumed taken)),
          .credentials (.find id) (.answered (.credential record))] failure
  | update {party : RelyingParty} {response : AuthenticationResponse} {challenge taken : Challenge}
      {id : Bytes} {assertion : Assertion} {record : Credential} {n : UInt32}
      {reply : Reply CredentialResponse} {failure : Failure} :
      (RelyingParty.assertionOf response).outcome = .ok (id, assertion) →
      (assertion.validate party.policy record taken).outcome = .ok n →
      (Message.credentials (.updateSignCount record.id record.signCount n) reply).failure? =
        some failure →
      Refuses (.authenticate party response challenge)
        [.challenges (.consume challenge) (.answered (.consumed taken)),
          .credentials (.find id) (.answered (.credential record)),
          .credentials (.updateSignCount record.id record.signCount n) reply] failure

end Call

namespace RelyingParty

variable {party : RelyingParty} {challenge : Challenge} {t : List Message} {failure : Failure}

theorem ends_register_error {response : RegistrationResponse} {owner : Uuid} :
    (party.register response challenge owner).Ends t (.error failure) ↔
      (Call.register party response challenge owner).Refuses t failure := by
  unfold register
  constructor
  · intro h
    -- each part either fails, and the transcript ends with it, or leaves the rest to the next part
    obtain ⟨reply, hf, rfl⟩ | ⟨taken, rest, rfl, hread⟩ := ends_consume_bind_error.1 h
    · exact .challenge hf
    obtain ⟨rfl, hr⟩ | ⟨registration, hr, hcheck⟩ := ends_ofAudited_bind_error.1 hread
    · exact .registrationPayload hr
    obtain ⟨rfl, hc⟩ | ⟨credential, hc, hstore⟩ := ends_ofAudited_bind_error.1 hcheck
    · rw [outcome_onFailure] at hc
      exact .registrationChecks hr hc
    · rw [outcome_onFailure] at hc
      obtain ⟨reply, hf, rfl⟩ := (ends_askToStore_pure_error rfl).1 hstore
      exact .insert hr hc hf
  · intro h
    cases h with
    | challenge hf => exact ends_consume_bind_error.2 (.inl ⟨_, hf, rfl⟩)
    | registrationPayload hr =>
      refine ends_consume_bind_error.2 (.inr ⟨_, _, rfl, ?_⟩)
      exact ends_ofAudited_bind_error.2 (.inl ⟨rfl, hr⟩)
    | registrationChecks hr hc =>
      refine ends_consume_bind_error.2 (.inr ⟨_, _, rfl, ?_⟩)
      refine ends_ofAudited_bind_error.2 (.inr ⟨_, hr, ?_⟩)
      exact ends_ofAudited_bind_error.2 (.inl ⟨rfl, (outcome_onFailure _ _).trans hc⟩)
    | insert hr hc hf =>
      refine ends_consume_bind_error.2 (.inr ⟨_, _, rfl, ?_⟩)
      refine ends_ofAudited_bind_error.2 (.inr ⟨_, hr, ?_⟩)
      refine ends_ofAudited_bind_error.2 (.inr ⟨_, (outcome_onFailure _ _).trans hc, ?_⟩)
      exact (ends_askToStore_pure_error rfl).2 ⟨_, hf, rfl⟩

theorem ends_authenticate_error {response : AuthenticationResponse} :
    (party.authenticate response challenge).Ends t (.error failure) ↔
      (Call.authenticate party response challenge).Refuses t failure := by
  unfold authenticate
  constructor
  · intro h
    obtain ⟨reply, hf, rfl⟩ | ⟨taken, rest, rfl, hread⟩ := ends_consume_bind_error.1 h
    · exact .challenge hf
    obtain ⟨rfl, ha⟩ | ⟨⟨id, assertion⟩, ha, hfind⟩ := ends_ofAudited_bind_error.1 hread
    · exact .assertionPayload ha
    obtain ⟨reply, hf, rfl⟩ | ⟨record, rest, rfl, hcheck⟩ := ends_find_bind_error.1 hfind
    · exact .find ha hf
    obtain ⟨rfl, hv⟩ | ⟨updated, hv, hstore⟩ := ends_ofAudited_bind_error.1 hcheck
    · rw [outcome_onFailure] at hv
      exact .assertionChecks ha (Assertion.credential_eq_error.1 hv)
    · rw [outcome_onFailure] at hv
      obtain ⟨n, hn, rfl⟩ := Assertion.credential_eq_ok.1 hv
      obtain ⟨reply, hf, rfl⟩ := (ends_askToStore_pure_error rfl).1 hstore
      exact .update ha hn hf
  · intro h
    cases h with
    | challenge hf => exact ends_consume_bind_error.2 (.inl ⟨_, hf, rfl⟩)
    | assertionPayload ha =>
      refine ends_consume_bind_error.2 (.inr ⟨_, _, rfl, ?_⟩)
      exact ends_ofAudited_bind_error.2 (.inl ⟨rfl, ha⟩)
    | find ha hf =>
      refine ends_consume_bind_error.2 (.inr ⟨_, _, rfl, ?_⟩)
      refine ends_ofAudited_bind_error.2 (.inr ⟨_, ha, ?_⟩)
      exact ends_find_bind_error.2 (.inl ⟨_, hf, rfl⟩)
    | assertionChecks ha hv =>
      refine ends_consume_bind_error.2 (.inr ⟨_, _, rfl, ?_⟩)
      refine ends_ofAudited_bind_error.2 (.inr ⟨_, ha, ?_⟩)
      refine ends_find_bind_error.2 (.inr ⟨_, _, rfl, ?_⟩)
      refine ends_ofAudited_bind_error.2 (.inl ⟨rfl, (outcome_onFailure _ _).trans ?_⟩)
      exact Assertion.credential_eq_error.2 hv
    | update ha hn hf =>
      have hv := Assertion.credential_eq_ok.2 ⟨_, hn, rfl⟩
      refine ends_consume_bind_error.2 (.inr ⟨_, _, rfl, ?_⟩)
      refine ends_ofAudited_bind_error.2 (.inr ⟨_, ha, ?_⟩)
      refine ends_find_bind_error.2 (.inr ⟨_, _, rfl, ?_⟩)
      refine ends_ofAudited_bind_error.2 (.inr ⟨_, (outcome_onFailure _ _).trans hv, ?_⟩)
      exact (ends_askToStore_pure_error rfl).2 ⟨_, hf, rfl⟩

end RelyingParty

namespace Call

variable {call : Call} {before after t : List Message} {message : Message} {credential : Credential}
  {failure : Failure}

theorem ends_error_iff_refuses :
    call.exchange.Ends t (.error failure) ↔ call.Refuses t failure := by
  cases call with
  | register party response challenge owner => exact RelyingParty.ends_register_error
  | authenticate party response challenge => exact RelyingParty.ends_authenticate_error

/-! ### Unexpected replies -/

theorem Accepts.expected (h : call.Accepts t credential) : ∀ message ∈ t, message.failure? = none := by
  cases h <;> simp [Message.failure?]

/-- All replies of a call that fails were expected, but for the last one if the call fails because of it. -/
theorem Refuses.cases_last (h : call.Refuses t failure) :
    (∀ message ∈ t, message.failure? = none) ∨
      ∃ front last, t = front ++ [last] ∧ (∀ message ∈ front, message.failure? = none) ∧
        last.failure? = some failure := by
  cases h with
  | challenge hf => exact .inr ⟨[], _, rfl, List.forall_mem_nil _, hf⟩
  | registrationPayload _ => exact .inl (by simp [Message.failure?])
  | registrationChecks _ _ => exact .inl (by simp [Message.failure?])
  | insert _ _ hf => exact .inr ⟨[_], _, rfl, by simp [Message.failure?], hf⟩
  | assertionPayload _ => exact .inl (by simp [Message.failure?])
  | find _ hf => exact .inr ⟨[_], _, rfl, by simp [Message.failure?], hf⟩
  | assertionChecks _ _ => exact .inl (by simp [Message.failure?])
  | update _ _ hf => exact .inr ⟨[_, _], _, rfl, by simp [Message.failure?], hf⟩

/-- A reply that a call does not wait for is its last one, and the call fails as the reply says. -/
theorem Refuses.unexpected {why : Failure} (h : call.Refuses t failure)
    (ht : t = before ++ message :: after) (hm : message.failure? = some why) :
    after = [] ∧ failure = why := by
  obtain hall | ⟨front, last, hlast, hfront, hf⟩ := h.cases_last
  · have hnone := hall message (by simp [ht])
    rw [hm] at hnone
    cases hnone
  · have hunexpected : ¬ message.failure? = none := by simp [hm]
    obtain ⟨_, rfl, hafter⟩ := Message.split_last hfront hunexpected (ht.symm.trans hlast)
    rw [hm] at hf
    exact ⟨hafter, (Option.some.inj hf).symm⟩

end Call

/-! ### Runs -/

namespace Exchange

variable {α σ : Type}

/-- The requests of an exchange alone with a backend, each with what became of it. -/
def transcript (backend : Backend σ) : Exchange α → σ → List Message
  | .finished _, _ => []
  | .challenges _ request next, state =>
    let (reply, _, state) := backend.challenges request state
    .challenges request reply :: (next reply).transcript backend state
  | .credentials _ request next, state =>
    let (reply, _, state) := backend.credentials request state
    .credentials request reply :: (next reply).transcript backend state

/-- An exchange that is run ends, after its transcript, with its outcome. -/
theorem ends_run (backend : Backend σ) (x : Exchange α) (state : σ) :
    x.Ends (x.transcript backend state) (x.run backend state).1.outcome := by
  induction x generalizing state with
  | finished result => exact ends_finished.2 ⟨rfl, rfl⟩
  | challenges log request next ih => exact ends_challenges.2 ⟨_, _, rfl, ih _ _⟩
  | credentials log request next ih => exact ends_credentials.2 ⟨_, _, rfl, ih _ _⟩

end Exchange

/-- A call that runs with any backend, in any state of it. It succeeds exactly if the replies, the payload and the
checks let it, on the record that the payload names; it fails exactly if one of them does not; and the first reply that
it does not wait for ends it with the failure that this reply stands for. -/
theorem Call.fails_closed {σ : Type} (backend : Backend σ) (state : σ) (call : Call) :
    (∀ credential, (call.exchange.run backend state).1.outcome = .ok credential ↔
      call.Accepts (call.exchange.transcript backend state) credential) ∧
    (∀ failure, (call.exchange.run backend state).1.outcome = .error failure ↔
      call.Refuses (call.exchange.transcript backend state) failure) ∧
    ∀ (before after : List Message) (message : Message) (failure : Failure),
      call.exchange.transcript backend state = before ++ message :: after →
      message.failure? = some failure →
      after = [] ∧ (call.exchange.run backend state).1.outcome = .error failure := by
  have hrun := ends_run backend call.exchange state
  have hok : ∀ credential, (call.exchange.run backend state).1.outcome = .ok credential ↔
      call.Accepts (call.exchange.transcript backend state) credential := by
    intro credential
    rw [← ends_ok_iff_accepts]
    exact ⟨fun h => h ▸ hrun, hrun.unique⟩
  have herror : ∀ failure, (call.exchange.run backend state).1.outcome = .error failure ↔
      call.Refuses (call.exchange.transcript backend state) failure := by
    intro failure
    rw [← ends_error_iff_refuses]
    exact ⟨fun h => h ▸ hrun, hrun.unique⟩
  refine ⟨hok, herror, fun before after message failure ht hm => ?_⟩
  -- a call that succeeds has waited for every reply that it got
  cases ho : (call.exchange.run backend state).1.outcome with
  | ok credential =>
    have hnone := ((hok credential).1 ho).expected message (by simp [ht])
    rw [hm] at hnone
    cases hnone
  | error why =>
    obtain ⟨hafter, rfl⟩ := ((herror why).1 ho).unexpected ht hm
    exact ⟨hafter, rfl⟩

/-! ### The record of somebody else -/

/-- An authentication with the credential 1, 2, 3. -/
def sampleCall : Call :=
  .authenticate ⟨Registration.samplePolicy, .standard⟩ ⟨"AQID", "AQID", "", "", "", none, ""⟩
    Registration.sampleChallenge

/-- A record under another id. -/
def foreignRecord : Credential :=
  ⟨[9], .okp ⟨.edDsa, .ed25519, .zeros⟩, 0, .ofList [], ⟨.zeros⟩, ""⟩

/-- Stores that hand over any challenge, and this record whatever they are asked for. -/
def foreignEnds : Ends where
  stores := ⟨none, none⟩
  challengeScript := some { replies := [.answered (.consumed Registration.sampleChallenge)] }
  credentialScript := some { replies := [.answered (.credential foreignRecord), .answered .stored] }

/-- The record is refused, and no sign count is written to it. -/
theorem sample_foreign_record_refused :
    sampleCall.Refuses
      [.challenges (.consume Registration.sampleChallenge)
          (.answered (.consumed Registration.sampleChallenge)),
        .credentials (.find [1, 2, 3]) (.answered (.credential foreignRecord))] .unknownCredential := by
  obtain ⟨_, hrefused, _⟩ :=
    Call.fails_closed (Ends.backend 0 Registration.sampleChallenge) foreignEnds sampleCall
  exact (hrefused .unknownCredential).1 rfl

end WebAuthn
