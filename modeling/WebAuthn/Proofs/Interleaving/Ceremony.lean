import WebAuthn.RelyingParty
import WebAuthn.Proofs.Acceptance.Assertion
import WebAuthn.Proofs.Acceptance.Registration
import WebAuthn.Proofs.Interleaving.Transcript

/-!
# Transcripts of ceremonies

What a ceremony asks the stores for, whatever they reply.

* `RelyingParty.ends_register`, `ends_authenticate` — the transcripts of ceremonies that succeed;
* `RelyingParty.asks_register`, `asks_authenticate` — what the transcripts of all ceremonies have in common;
* `Call`, `Call.exchange` — a call of either ceremony; `Call.MayAsk`, `Call.mayAsk_of_asks` — its requests;
* `Call.consumed_of_ends` — a call succeeds only on a challenge that it took back and that its client data presents.
-/

namespace WebAuthn

open Audited Exchange

/-! ### Ceremonies that succeed -/

namespace RelyingParty

variable {party : RelyingParty} {challenge : Challenge} {t : List Message} {credential : Credential}

/-- A registration succeeds if it takes its challenge back, passes all checks and has its credential stored. -/
theorem ends_register {response : RegistrationResponse} {owner : Uuid} :
    (party.register response challenge owner).Ends t (.ok credential) ↔
      ∃ taken registration, (registrationOf response).outcome = .ok registration ∧
        (party.createCredential registration taken response.transportSet owner).outcome =
          .ok credential ∧
        t = [.challenges (.consume challenge) (.answered (.consumed taken)),
          .credentials (.insert credential) (.answered .stored)] := by
  unfold register
  rw [ends_bind_ok]
  simp only [ends_consume, ends_ofAudited_bind_ok, outcome_onFailure]
  constructor
  · intro h
    obtain ⟨_, taken, rest, rfl, rfl, registration, hr, created, hc, h⟩ := h
    obtain ⟨_, _, _, rfl, hi, hp⟩ := ends_bind_ok.1 h
    obtain ⟨rfl, he⟩ := ends_pure.1 hp
    cases he
    rw [ends_askToStore.1 hi]
    exact ⟨taken, registration, hr, hc, rfl⟩
  · intro h
    obtain ⟨taken, registration, hr, hc, rfl⟩ := h
    refine ⟨_, taken, [_], rfl, rfl, registration, hr, credential, hc, ?_⟩
    exact ends_bind_ok.2 ⟨_, (), [], rfl, ends_askToStore.2 rfl, ends_pure.2 ⟨rfl, rfl⟩⟩

/-- An authentication succeeds if it takes its challenge back, finds the credential, passes all checks and has its sign
count stored. -/
theorem ends_authenticate {response : AuthenticationResponse} :
    (party.authenticate response challenge).Ends t (.ok credential) ↔
      ∃ taken id assertion stored, (assertionOf response).outcome = .ok (id, assertion) ∧
        (party.authenticateCredential assertion stored taken).outcome = .ok credential ∧
        t = [.challenges (.consume challenge) (.answered (.consumed taken)),
          .credentials (.find id) (.answered (.credential stored)),
          .credentials (.updateSignCount credential.id stored.signCount credential.signCount)
            (.answered .stored)] := by
  unfold authenticate
  rw [ends_bind_ok]
  simp only [ends_consume, ends_ofAudited_bind_ok]
  constructor
  · intro h
    obtain ⟨_, taken, rest, rfl, rfl, ⟨id, assertion⟩, ha, h⟩ := h
    obtain ⟨_, stored, rest, rfl, hf, h⟩ := ends_bind_ok.1 h
    obtain ⟨updated, hu, h⟩ := ends_ofAudited_bind_ok.1 h
    obtain ⟨_, _, _, rfl, hs, hp⟩ := ends_bind_ok.1 h
    obtain ⟨rfl, he⟩ := ends_pure.1 hp
    cases he
    rw [outcome_onFailure] at hu
    rw [ends_find.1 hf, ends_askToStore.1 hs]
    exact ⟨taken, id, assertion, stored, ha, hu, rfl⟩
  · intro h
    obtain ⟨taken, id, assertion, stored, ha, hu, rfl⟩ := h
    refine ⟨_, taken, [_, _], rfl, rfl, (id, assertion), ha, ?_⟩
    refine ends_bind_ok.2 ⟨_, stored, [_], rfl, ends_find.2 rfl, ?_⟩
    refine ends_ofAudited_bind_ok.2 ⟨credential, by rw [outcome_onFailure]; exact hu, ?_⟩
    exact ends_bind_ok.2 ⟨_, (), [], rfl, ends_askToStore.2 rfl, ends_pure.2 ⟨rfl, rfl⟩⟩

/-! ### All ceremonies -/

/-- The requests of a registration: the challenge is taken back first, and the credential that passes all checks is
stored last. -/
theorem asks_register {response : RegistrationResponse} {owner : Uuid}
    (h : (party.register response challenge owner).Asks t) :
    t = [] ∨ (∃ reply, t = [.challenges (.consume challenge) reply]) ∨
      ∃ taken registration created reply, (registrationOf response).outcome = .ok registration ∧
        (party.createCredential registration taken response.transportSet owner).outcome =
          .ok created ∧
        t = [.challenges (.consume challenge) (.answered (.consumed taken)),
          .credentials (.insert created) reply] := by
  unfold register at h
  obtain h | ⟨_, taken, rest, rfl, hc, h⟩ := asks_bind.1 h
  · obtain rfl | ⟨reply, rfl⟩ := asks_consume.1 h
    · exact .inl rfl
    · exact .inr (.inl ⟨reply, rfl⟩)
  · rw [ends_consume.1 hc]
    obtain rfl | ⟨registration, hr, h⟩ := asks_ofAudited_bind.1 h
    · exact .inr (.inl ⟨_, rfl⟩)
    · obtain rfl | ⟨created, hcreated, h⟩ := asks_ofAudited_bind.1 h
      · exact .inr (.inl ⟨_, rfl⟩)
      · rw [outcome_onFailure] at hcreated
        obtain h | ⟨_, _, _, rfl, hi, h⟩ := asks_bind.1 h
        · obtain rfl | ⟨reply, rfl⟩ := asks_askToStore.1 h
          · exact .inr (.inl ⟨_, rfl⟩)
          · exact .inr (.inr ⟨taken, registration, created, reply, hr, hcreated, rfl⟩)
        · rw [ends_askToStore.1 hi, asks_finished.1 h]
          exact .inr (.inr ⟨taken, registration, created, _, hr, hcreated, rfl⟩)

/-- The sign count of an accepted credential counts up from the stored one, unless that never counted. -/
theorem counts_of_authenticate {assertion : Assertion} {stored updated : Credential}
    {taken : Challenge}
    (h : (party.authenticateCredential assertion stored taken).outcome = .ok updated) :
    stored.signCount = 0 ∨ stored.signCount < updated.signCount := by
  obtain ⟨n, hn, he⟩ := outcome_bind_ok.1 h
  cases he
  exact Assertion.counts_of_validate hn

/-- Only the sign count of an accepted credential is new. -/
theorem recounted_of_authenticate {assertion : Assertion} {stored updated : Credential}
    {taken : Challenge}
    (h : (party.authenticateCredential assertion stored taken).outcome = .ok updated) :
    updated.Recounted stored updated.signCount := by
  obtain ⟨n, _, he⟩ := outcome_bind_ok.1 h
  cases he
  exact stored.recounted_withSignCount n

/-- The accepted credential is the one that the message names. -/
theorem id_of_authenticate {response : AuthenticationResponse} {id : Bytes} {assertion : Assertion}
    {stored updated : Credential} {taken : Challenge}
    (ha : (assertionOf response).outcome = .ok (id, assertion))
    (h : (party.authenticateCredential assertion stored taken).outcome = .ok updated) :
    response.credentialIdBytes.outcome = .ok id ∧ stored.id = id := by
  obtain ⟨n, hn, _⟩ := outcome_bind_ok.1 h
  obtain ⟨named, hid, ha⟩ := outcome_bind_ok.1 ha
  obtain ⟨_, _, ha⟩ := outcome_bind_ok.1 ha
  obtain ⟨_, _, ha⟩ := outcome_bind_ok.1 ha
  obtain ⟨_, _, ha⟩ := outcome_bind_ok.1 ha
  obtain ⟨_, _, ha⟩ := outcome_bind_ok.1 ha
  cases ha
  exact ⟨hid, (Assertion.names_of_validate hn id rfl).symm⟩

/-- The requests of an authentication: the challenge is taken back first, then a credential is found, and the sign count
of the one that passes all checks is stored last. -/
theorem asks_authenticate {response : AuthenticationResponse}
    (h : (party.authenticate response challenge).Asks t) :
    t = [] ∨ (∃ reply, t = [.challenges (.consume challenge) reply]) ∨
      (∃ taken id reply, t = [.challenges (.consume challenge) (.answered (.consumed taken)),
        .credentials (.find id) reply]) ∨
      ∃ taken id assertion stored updated reply,
        (assertionOf response).outcome = .ok (id, assertion) ∧
        (party.authenticateCredential assertion stored taken).outcome = .ok updated ∧
        t = [.challenges (.consume challenge) (.answered (.consumed taken)),
          .credentials (.find id) (.answered (.credential stored)),
          .credentials (.updateSignCount updated.id stored.signCount updated.signCount) reply] := by
  unfold authenticate at h
  obtain h | ⟨_, taken, rest, rfl, hc, h⟩ := asks_bind.1 h
  · obtain rfl | ⟨reply, rfl⟩ := asks_consume.1 h
    · exact .inl rfl
    · exact .inr (.inl ⟨reply, rfl⟩)
  · rw [ends_consume.1 hc]
    obtain rfl | ⟨⟨id, assertion⟩, ha, h⟩ := asks_ofAudited_bind.1 h
    · exact .inr (.inl ⟨_, rfl⟩)
    · obtain h | ⟨_, stored, rest, rfl, hf, h⟩ := asks_bind.1 h
      · obtain rfl | ⟨reply, rfl⟩ := asks_find.1 h
        · exact .inr (.inl ⟨_, rfl⟩)
        · exact .inr (.inr (.inl ⟨taken, id, reply, rfl⟩))
      · rw [ends_find.1 hf]
        obtain rfl | ⟨updated, hu, h⟩ := asks_ofAudited_bind.1 h
        · exact .inr (.inr (.inl ⟨taken, id, _, rfl⟩))
        · rw [outcome_onFailure] at hu
          obtain h | ⟨_, _, _, rfl, hs, h⟩ := asks_bind.1 h
          · obtain rfl | ⟨reply, rfl⟩ := asks_askToStore.1 h
            · exact .inr (.inr (.inl ⟨taken, id, _, rfl⟩))
            · exact .inr (.inr (.inr ⟨taken, id, assertion, stored, updated, reply, ha, hu, rfl⟩))
          · rw [ends_askToStore.1 hs, asks_finished.1 h]
            exact .inr (.inr (.inr ⟨taken, id, assertion, stored, updated, _, ha, hu, rfl⟩))

end RelyingParty

/-! ### Calls -/

/-- A call of a ceremony, with all that it is given. -/
inductive Call where
  | register (party : RelyingParty) (response : RegistrationResponse) (challenge : Challenge)
      (owner : Uuid)
  | authenticate (party : RelyingParty) (response : AuthenticationResponse) (challenge : Challenge)

namespace Call

def exchange : Call → Exchange Credential
  | register party response challenge owner => party.register response challenge owner
  | authenticate party response challenge => party.authenticate response challenge

def challenge : Call → Challenge
  | register _ _ challenge _ => challenge
  | authenticate _ _ challenge => challenge

/-- The client data that the message of the call carries, in its encoding. -/
def clientDataJson : Call → String
  | register _ response _ _ => response.clientDataJson
  | authenticate _ response _ => response.clientDataJson

/-- The bytes of the challenge that the message of the call presents. -/
def presented? (call : Call) : Option Bytes :=
  (Base64Url.decode call.clientDataJson).toOption.bind ClientData.presented?

/-- What a call may ask: to take back its challenge, to find or insert a credential, and to have a sign count stored
that counts up from the expected one, unless that is zero. -/
def MayAsk (call : Call) : Message → Prop
  | .challenges request _ => request = .consume call.challenge
  | .credentials (.insert _) _ => True
  | .credentials (.find _) _ => True
  | .credentials (.updateSignCount _ expected new) _ => expected = 0 ∨ expected < new
  | .credentials (.remove _) _ => False

theorem mayAsk_of_asks {call : Call} {t : List Message} (h : call.exchange.Asks t) :
    ∀ message ∈ t, call.MayAsk message := by
  cases call with
  | register party response challenge owner =>
    obtain rfl | ⟨reply, rfl⟩ | ⟨taken, registration, created, reply, _, _, rfl⟩ :=
      RelyingParty.asks_register h
    · simp
    · simp [MayAsk, Call.challenge]
    · simp [MayAsk, Call.challenge]
  | authenticate party response challenge =>
    obtain rfl | ⟨reply, rfl⟩ | ⟨taken, id, reply, rfl⟩ |
      ⟨taken, id, assertion, stored, updated, reply, _, hu, rfl⟩ :=
        RelyingParty.asks_authenticate h
    · simp
    · simp [MayAsk, Call.challenge]
    · simp [MayAsk, Call.challenge]
    · simp [MayAsk, Call.challenge, RelyingParty.counts_of_authenticate hu]

/-! ### Calls that succeed -/

theorem decodeMember_eq_ok {text : String} {failure : Failure} {bytes : Bytes} :
    (decodeMember text failure).outcome = .ok bytes ↔ Base64Url.decode text = .ok bytes := by
  unfold decodeMember
  cases Base64Url.decode text <;> simp

theorem presented?_eq {call : Call} {json bytes : Bytes}
    (hj : Base64Url.decode call.clientDataJson = .ok json)
    (hb : ClientData.presented? json = some bytes) : call.presented? = some bytes := by
  unfold presented?
  rw [hj]
  exact hb

/-- A call that succeeds took a challenge back, and its client data presents this challenge. -/
theorem consumed_of_ends {call : Call} {t : List Message} {credential : Credential}
    (h : call.exchange.Ends t (.ok credential)) :
    ∃ taken : Challenge,
      Message.challenges (.consume call.challenge) (.answered (.consumed taken)) ∈ t ∧
        call.presented? = some taken.bytes := by
  cases call with
  | register party response challenge owner =>
    obtain ⟨taken, registration, hr, hc, rfl⟩ := RelyingParty.ends_register.1 h
    refine ⟨taken, List.mem_cons_self, ?_⟩
    obtain ⟨json, hj, hr⟩ := outcome_bind_ok.1 hr
    obtain ⟨_, _, hr⟩ := outcome_bind_ok.1 hr
    cases hr
    obtain ⟨_, hv, _⟩ := outcome_bind_ok.1 hc
    exact presented?_eq (decodeMember_eq_ok.1 hj) (Registration.presented?_of_validate hv)
  | authenticate party response challenge =>
    obtain ⟨taken, id, assertion, stored, ha, hu, rfl⟩ := RelyingParty.ends_authenticate.1 h
    refine ⟨taken, List.mem_cons_self, ?_⟩
    obtain ⟨_, _, ha⟩ := outcome_bind_ok.1 ha
    obtain ⟨json, hj, ha⟩ := outcome_bind_ok.1 ha
    obtain ⟨_, _, ha⟩ := outcome_bind_ok.1 ha
    obtain ⟨_, _, ha⟩ := outcome_bind_ok.1 ha
    obtain ⟨_, _, ha⟩ := outcome_bind_ok.1 ha
    cases ha
    obtain ⟨_, hv, _⟩ := outcome_bind_ok.1 hu
    exact presented?_eq (decodeMember_eq_ok.1 hj) (Assertion.presented?_of_validate hv)

/-- A call that succeeds returns the sign count that it had stored, if it had one stored. -/
theorem signCount_of_ends {call : Call} {t : List Message} {credential : Credential}
    (h : call.exchange.Ends t (.ok credential)) {id : Bytes} {expected new : UInt32}
    {reply : Reply CredentialResponse}
    (hm : Message.credentials (.updateSignCount id expected new) reply ∈ t) :
    new = credential.signCount := by
  cases call with
  | register party response challenge owner =>
    obtain ⟨taken, registration, _, _, rfl⟩ := RelyingParty.ends_register.1 h
    simp at hm
  | authenticate party response challenge =>
    obtain ⟨taken, id, assertion, stored, _, _, rfl⟩ := RelyingParty.ends_authenticate.1 h
    simp only [List.mem_cons, Message.credentials.injEq, CredentialRequest.updateSignCount.injEq,
      List.not_mem_nil, reduceCtorEq, false_and, or_false, false_or] at hm
    exact hm.1.2.2

end Call

end WebAuthn
