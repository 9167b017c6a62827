import WebAuthn.Proofs.Interleaving.Records
import WebAuthn.Proofs.Interleaving.Requests
import WebAuthn.Proofs.Interleaving.SignCount

/-!
# Ceremonies that write once or not at all

A call reads, checks and writes, and it fails in many places. It writes last, and one record, so that there is nothing
to take back when it fails.

* `Call.Passes` — the checks of a call have all passed on what it was answered, and the write that they let through;
* `Call.asks_cases`, `Call.write_is_last` — a write is the last request of a call, and no check is left behind it;
* `Call.ends_ok_iff`, `Call.not_stored_of_error` — a call succeeds if its write is stored, and fails if none is;
* `Call.Changes`, `Call.Passes.changes` — what the write of a call does to the credentials;
* `World.ceremony_atomic` — the three together, for every call of every schedule.
-/

namespace WebAuthn

open Audited Exchange

namespace Message

variable {message : Message}

theorem Stored.writes (h : message.Stored) : message.writes = true := by
  obtain ⟨request, hw, rfl⟩ := h
  exact hw

end Message

namespace Call

variable {call : Call} {before after t : List Message} {request : CredentialRequest}
  {credential : Credential}

/-! ### Calls that are about to write -/

/-- All checks of the call passed on what it was answered. They let the request through, and if it is stored, the
credential is returned. -/
inductive Passes : Call → List Message → CredentialRequest → Credential → Prop where
  | register {party : RelyingParty} {response : RegistrationResponse} {challenge taken : Challenge}
      {owner : Uuid} {registration : Registration} {credential : Credential} :
      (RelyingParty.registrationOf response).outcome = .ok registration →
      (party.createCredential registration taken response.transportSet owner).outcome =
        .ok credential →
      Passes (.register party response challenge owner)
        [.challenges (.consume challenge) (.answered (.consumed taken))]
        (.insert credential) credential
  | authenticate {party : RelyingParty} {response : AuthenticationResponse}
      {challenge taken : Challenge} {id : Bytes} {assertion : Assertion}
      {read credential : Credential} :
      (RelyingParty.assertionOf response).outcome = .ok (id, assertion) →
      (party.authenticateCredential assertion read taken).outcome = .ok credential →
      Passes (.authenticate party response challenge)
        [.challenges (.consume challenge) (.answered (.consumed taken)),
          .credentials (.find id) (.answered (.credential read))]
        (.updateSignCount credential.id read.signCount credential.signCount) credential

theorem Passes.reads (h : call.Passes before request credential) :
    ∀ read ∈ before, read.writes = false := by
  cases h with
  | register _ _ => simp [Message.writes]
  | authenticate _ _ => simp [Message.writes, CredentialRequest.writes]

/-- A call succeeds if its checks pass and its write is stored. -/
theorem ends_ok_iff :
    call.exchange.Ends t (.ok credential) ↔
      ∃ before request, call.Passes before request credential ∧
        t = before ++ [.credentials request (.answered .stored)] := by
  constructor
  · intro h
    cases call with
    | register party response challenge owner =>
      obtain ⟨taken, registration, hr, hc, rfl⟩ := RelyingParty.ends_register.1 h
      exact ⟨_, _, .register hr hc, rfl⟩
    | authenticate party response challenge =>
      obtain ⟨taken, id, assertion, read, ha, hu, rfl⟩ := RelyingParty.ends_authenticate.1 h
      exact ⟨_, _, .authenticate ha hu, rfl⟩
  · intro h
    obtain ⟨before, request, hp, rfl⟩ := h
    cases hp with
    | register hr hc => exact RelyingParty.ends_register.2 ⟨_, _, hr, hc, rfl⟩
    | authenticate ha hu => exact RelyingParty.ends_authenticate.2 ⟨_, _, _, _, ha, hu, rfl⟩

/-- A call has only read, or all its checks have passed and its write is what it asked last. -/
theorem asks_cases (h : call.exchange.Asks t) :
    (∀ read ∈ t, read.writes = false) ∨
      ∃ before request reply credential, call.Passes before request credential ∧
        t = before ++ [.credentials request reply] := by
  cases call with
  | register party response challenge owner =>
    obtain rfl | ⟨reply, rfl⟩ | ⟨taken, registration, created, reply, hr, hc, rfl⟩ :=
      RelyingParty.asks_register h
    · exact .inl (by simp)
    · exact .inl (by simp [Message.writes])
    · exact .inr ⟨_, _, reply, created, .register hr hc, rfl⟩
  | authenticate party response challenge =>
    obtain rfl | ⟨reply, rfl⟩ | ⟨taken, id, reply, rfl⟩ |
      ⟨taken, id, assertion, read, updated, reply, ha, hu, rfl⟩ :=
        RelyingParty.asks_authenticate h
    · exact .inl (by simp)
    · exact .inl (by simp [Message.writes])
    · exact .inl (by simp [Message.writes, CredentialRequest.writes])
    · exact .inr ⟨_, _, reply, updated, .authenticate ha hu, rfl⟩

/-- A call that asks for a write has only read before, has passed its checks, and asks for nothing more. -/
theorem write_is_last {message : Message} (h : call.exchange.Asks (before ++ message :: after))
    (hm : message.writes = true) :
    after = [] ∧ (∀ read ∈ before, read.writes = false) ∧
      ∃ request reply credential, message = .credentials request reply ∧
        call.Passes before request credential := by
  obtain hreads | ⟨reads, request, reply, credential, hp, ht⟩ := asks_cases h
  · rw [hreads message (List.mem_append_right _ List.mem_cons_self)] at hm
    cases hm
  · have hwrite : ¬ message.writes = false := by simp [hm]
    obtain ⟨rfl, hmessage, hafter⟩ := Message.split_last hp.reads hwrite ht
    exact ⟨hafter, hp.reads, request, reply, credential, hmessage, hp⟩

/-- A call that fails had nothing stored. -/
theorem not_stored_of_error {failure : Failure} (h : call.exchange.Ends t (.error failure)) :
    ∀ message ∈ t, ¬ message.Stored := by
  intro message hm hstored
  obtain ⟨before, after, rfl⟩ := List.append_of_mem hm
  obtain ⟨rfl, _, request, reply, credential, rfl, hp⟩ := write_is_last h.asks hstored.writes
  obtain ⟨_, _, hreply⟩ := hstored
  cases hreply
  -- the same requests with the same replies let the call succeed
  have hok : call.exchange.Ends (before ++ [.credentials request (.answered .stored)])
      (.ok credential) := ends_ok_iff.2 ⟨before, request, hp, rfl⟩
  cases h.unique hok

/-! ### What is written -/

/-- From the first stores to the second ones the call wrote the credential that it returned. A registration put it where
none was, and an authentication gave its sign count to the one that its message names. All else is as it was. -/
def Changes (call : Call) (credential : Credential) (first second : Stores) : Prop :=
  (∀ other, other ≠ credential.id → second.credential? other = first.credential? other) ∧
    match call with
    | .register _ _ _ _ =>
      first.credential? credential.id = none ∧ second.credential? credential.id = some credential
    | .authenticate _ response _ =>
      response.credentialIdBytes.outcome = .ok credential.id ∧
        ∃ kept record, first.credential? credential.id = some kept ∧
          second.credential? credential.id = some record ∧ record.Recounted kept credential.signCount

theorem Passes.changes (h : call.Passes before request credential) {first second : Stores}
    (hm : World.Met first (.credentials request (.answered .stored)) second) :
    call.Changes credential first second := by
  cases h with
  | register _ _ => exact ⟨fun other ho => hm.elsewhere ho, hm.inserts⟩
  | @authenticate party response challenge taken id assertion read _ ha hu =>
    obtain ⟨hid, hread⟩ := RelyingParty.id_of_authenticate ha hu
    have hsame : credential.id = id := by
      rw [(RelyingParty.recounted_of_authenticate hu).id_eq]
      exact hread
    obtain ⟨kept, hkept, _, hnext⟩ := hm.updates
    exact ⟨fun other ho => hm.elsewhere ho, by rw [hsame]; exact hid, kept, _, hkept, hnext,
      kept.recounted_withSignCount _⟩

end Call

namespace World

/-- Calls of any schedule on the credentials. A call asks for at most one write, after everything else that it asks and
after all its checks have passed, also while it still waits for the reply; what it asks besides changes nothing, and if
it fails nothing that it asks does; if it succeeds, the schedule has a step at which its write was stored, and the step
changed the record of the returned credential as the call should, and no other. -/
theorem ceremony_atomic (stores : Stores) (schedule : List Action) (position : Nat)
    (session : Session)
    (hs : ((start stores).run schedule).sessions[position]? = some session) :
    (∀ (before after : List Message) (message : Message),
      ((start stores).run schedule).asked position = before ++ message :: after →
      message.writes = true →
      after = [] ∧ (∀ read ∈ before, read.writes = false) ∧
        ∃ request reply credential, message = .credentials request reply ∧
          session.call.Passes before request credential) ∧
    (∀ (log : List LogEntry) (request : CredentialRequest)
        (next : Reply CredentialResponse → Exchange Credential),
      session.rest = .credentials log request next → request.writes = true →
      ∃ credential,
        session.call.Passes (((start stores).run schedule).asked position) request credential) ∧
    (∀ (first second : List Action) (action : Action) (message : Message),
      schedule = first ++ action :: second →
      ((start stores).run first).Meets action ⟨some position, message⟩ →
      (message.writes = false ∨ ∃ failure, session.outcome? = some (.error failure)) →
      (((start stores).run first).step action).stores.credentials =
        ((start stores).run first).stores.credentials) ∧
    ∀ credential : Credential, session.outcome? = some (.ok credential) →
      ∃ first action second request, schedule = first ++ action :: second ∧
        ((start stores).run first).Meets action
          ⟨some position, .credentials request (.answered .stored)⟩ ∧
        session.call.Passes (((start stores).run first).asked position) request credential ∧
        session.call.Changes credential ((start stores).run first).stores
          (((start stores).run first).step action).stores := by
  refine ⟨?_, ?_, ?_, ?_⟩
  · intro before after message hasked hm
    have hleads := leads_asked stores schedule hs
    rw [hasked] at hleads
    exact Call.write_is_last ⟨session.rest, hleads⟩ hm
  · intro log request next hrest hwrites
    have hleads := leads_asked stores schedule hs
    rw [hrest] at hleads
    -- whatever the reply will be
    have hasks : session.call.exchange.Asks
        (((start stores).run schedule).asked position ++ [.credentials request .unanswered]) :=
      ⟨_, hleads.trans (.credentials (.here _))⟩
    obtain ⟨_, _, _, _, credential, hmessage, hp⟩ := Call.write_is_last hasks hwrites
    cases hmessage
    exact ⟨credential, hp⟩
  · intro first second action message hschedule hmeets hcase
    refine hmeets.met.unchanged fun hstored => ?_
    obtain hreads | ⟨failure, ho⟩ := hcase
    · rw [Message.Stored.writes hstored] at hreads
      cases hreads
    · have hmem : message ∈ ((start stores).run schedule).asked position := by
        rw [hschedule, run_append]
        exact mem_asked hmeets second
      exact Call.not_stored_of_error (ends_asked stores schedule hs ho) message hmem hstored
  · intro credential ho
    obtain ⟨before, request, hp, hasked⟩ := Call.ends_ok_iff.1 (ends_asked stores schedule hs ho)
    obtain ⟨first, action, second, hschedule, hbefore, hmeets⟩ := exists_meets hasked
    refine ⟨first, action, second, request, hschedule, hmeets, ?_, hp.changes hmeets.met⟩
    rw [hbefore]
    exact hp

set_option maxRecDepth 100000 in
/-- In this schedule an authentication succeeds. -/
theorem sample_succeeds :
    ∃ session credential, ((start sampleStores).run sampleSchedule).sessions[0]? = some session ∧
      session.outcome? = some (.ok credential) ∧ credential.signCount = 5 := by
  have hcount : (((start sampleStores).run sampleSchedule).returned? 0).map Credential.signCount =
      some 5 := by
    decide +kernel
  obtain ⟨credential, hreturned, hfive⟩ := Option.map_eq_some_iff.1 hcount
  obtain ⟨session, hs, ho⟩ := returned?_eq_some.1 hreturned
  exact ⟨session, credential, hs, ho, hfive⟩

/-- The theorem tells the step of this schedule that changes the record. -/
theorem sample_record_changed :
    ∃ session credential first action second,
      ((start sampleStores).run sampleSchedule).sessions[0]? = some session ∧
        session.outcome? = some (.ok credential) ∧ credential.signCount = 5 ∧
        sampleSchedule = first ++ action :: second ∧
        session.call.Changes credential ((start sampleStores).run first).stores
          (((start sampleStores).run first).step action).stores := by
  obtain ⟨session, credential, hs, ho, hfive⟩ := sample_succeeds
  obtain ⟨_, _, _, hok⟩ := ceremony_atomic sampleStores sampleSchedule 0 session hs
  obtain ⟨first, action, second, _, hschedule, _, _, hchanges⟩ := hok credential ho
  exact ⟨session, credential, first, action, second, hs, ho, hfive, hschedule, hchanges⟩

end World

end WebAuthn
