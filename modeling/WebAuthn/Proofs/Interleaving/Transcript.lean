import WebAuthn.Exchange

/-!
# Transcripts of exchanges

What an exchange asks depends on the replies that it gets. A transcript lists its requests with their replies, in
order.

* `Message` — a request and what became of it;
* `Exchange.Leads` — the transcript after which an exchange goes on as another one;
* `Exchange.Asks`, `Exchange.Ends` — a transcript so far, and one after which the exchange has finished with an outcome;
* `Message.split_last` — the one message that differs from those before it;
* `asks_bind`, `ends_bind` — the transcripts of two exchanges run in order;
* `ends_consume`, `ends_find`, `ends_askToStore` — the transcripts of the exchanges of one request that succeed.

The lines that an exchange writes play no part here.
-/

namespace WebAuthn

/-- A request and what became of it. -/
inductive Message where
  | challenges (request : ChallengeRequest) (reply : Reply ChallengeResponse)
  | credentials (request : CredentialRequest) (reply : Reply CredentialResponse)
  deriving DecidableEq

/-- A message that is not like the ones in front of the last one is the last one. -/
theorem Message.split_last {P : Message → Prop} {before after front : List Message}
    {message last : Message} (hfront : ∀ other ∈ front, P other) (hm : ¬ P message)
    (h : before ++ message :: after = front ++ [last]) :
    before = front ∧ message = last ∧ after = [] := by
  obtain rfl | ⟨rest, final, rfl⟩ := List.eq_nil_or_concat after
  · obtain ⟨hb, hl⟩ := List.append_inj' h rfl
    exact ⟨hb, List.head_eq_of_cons_eq hl, rfl⟩
  · -- else it would stand in front of the last one
    rw [List.concat_eq_append, ← List.cons_append, ← List.append_assoc] at h
    obtain ⟨hr, _⟩ := List.append_inj' h rfl
    refine absurd (hfront message ?_) hm
    rw [← hr]
    exact List.mem_append_right _ List.mem_cons_self

namespace Exchange

variable {α β : Type}

/-! ### Transcripts -/

/-- The exchange goes on as another one when its first requests are met as the transcript says. -/
inductive Leads : Exchange α → List Message → Exchange α → Prop where
  | here (x : Exchange α) : Leads x [] x
  | challenges {log : List LogEntry} {request : ChallengeRequest}
      {next : Reply ChallengeResponse → Exchange α} {reply : Reply ChallengeResponse}
      {rest : List Message} {y : Exchange α} : Leads (next reply) rest y →
      Leads (.challenges log request next) (.challenges request reply :: rest) y
  | credentials {log : List LogEntry} {request : CredentialRequest}
      {next : Reply CredentialResponse → Exchange α} {reply : Reply CredentialResponse}
      {rest : List Message} {y : Exchange α} : Leads (next reply) rest y →
      Leads (.credentials log request next) (.credentials request reply :: rest) y

/-- The transcript is one of the exchange so far. -/
def Asks (x : Exchange α) (transcript : List Message) : Prop :=
  ∃ y, Leads x transcript y

/-- The exchange finishes with the outcome after the transcript. -/
def Ends (x : Exchange α) (transcript : List Message) (outcome : Except Failure α) : Prop :=
  ∃ log, Leads x transcript (.finished ⟨outcome, log⟩)

theorem Leads.trans {x y z : Exchange α} {s t : List Message} (h : Leads x s y) (hz : Leads y t z) :
    Leads x (s ++ t) z := by
  induction h with
  | here x => exact hz
  | challenges _ ih => exact .challenges (ih hz)
  | credentials _ ih => exact .credentials (ih hz)

/-- A transcript leads to one place. -/
theorem Leads.unique {x y z : Exchange α} {t : List Message} (h : Leads x t y) (hz : Leads x t z) :
    y = z := by
  induction h with
  | here x =>
    cases hz
    rfl
  | challenges _ ih =>
    cases hz with
    | challenges hz => exact ih hz
  | credentials _ ih =>
    cases hz with
    | credentials hz => exact ih hz

theorem Ends.asks {x : Exchange α} {t : List Message} {outcome : Except Failure α}
    (h : x.Ends t outcome) : x.Asks t := by
  obtain ⟨log, h⟩ := h
  exact ⟨_, h⟩

/-- A transcript ends with one outcome. -/
theorem Ends.unique {x : Exchange α} {t : List Message} {outcome other : Except Failure α}
    (h : x.Ends t outcome) (ho : x.Ends t other) : outcome = other := by
  obtain ⟨log, h⟩ := h
  obtain ⟨lines, ho⟩ := ho
  cases h.unique ho
  rfl

/-! ### Exchanges of each form -/

theorem asks_finished {result : Audited α} {t : List Message} :
    (Exchange.finished result).Asks t ↔ t = [] := by
  constructor
  · intro h
    obtain ⟨y, h⟩ := h
    cases h
    rfl
  · intro h
    subst h
    exact ⟨_, .here _⟩

theorem asks_challenges {log : List LogEntry} {request : ChallengeRequest}
    {next : Reply ChallengeResponse → Exchange α} {t : List Message} :
    (Exchange.challenges log request next).Asks t ↔
      t = [] ∨ ∃ reply rest, t = .challenges request reply :: rest ∧ (next reply).Asks rest := by
  constructor
  · intro h
    obtain ⟨y, h⟩ := h
    cases h with
    | here => exact .inl rfl
    | challenges h => exact .inr ⟨_, _, rfl, y, h⟩
  · intro h
    rcases h with rfl | ⟨reply, rest, rfl, y, h⟩
    · exact ⟨_, .here _⟩
    · exact ⟨y, .challenges h⟩

theorem asks_credentials {log : List LogEntry} {request : CredentialRequest}
    {next : Reply CredentialResponse → Exchange α} {t : List Message} :
    (Exchange.credentials log request next).Asks t ↔
      t = [] ∨ ∃ reply rest, t = .credentials request reply :: rest ∧ (next reply).Asks rest := by
  constructor
  · intro h
    obtain ⟨y, h⟩ := h
    cases h with
    | here => exact .inl rfl
    | credentials h => exact .inr ⟨_, _, rfl, y, h⟩
  · intro h
    rcases h with rfl | ⟨reply, rest, rfl, y, h⟩
    · exact ⟨_, .here _⟩
    · exact ⟨y, .credentials h⟩

theorem ends_finished {result : Audited α} {t : List Message} {outcome : Except Failure α} :
    (Exchange.finished result).Ends t outcome ↔ t = [] ∧ result.outcome = outcome := by
  constructor
  · intro h
    obtain ⟨log, h⟩ := h
    cases h
    exact ⟨rfl, rfl⟩
  · intro h
    obtain ⟨rfl, rfl⟩ := h
    exact ⟨result.log, .here _⟩

theorem ends_challenges {log : List LogEntry} {request : ChallengeRequest}
    {next : Reply ChallengeResponse → Exchange α} {t : List Message} {outcome : Except Failure α} :
    (Exchange.challenges log request next).Ends t outcome ↔
      ∃ reply rest, t = .challenges request reply :: rest ∧ (next reply).Ends rest outcome := by
  constructor
  · intro h
    obtain ⟨lines, h⟩ := h
    cases h with
    | challenges h => exact ⟨_, _, rfl, lines, h⟩
  · intro h
    obtain ⟨reply, rest, rfl, lines, h⟩ := h
    exact ⟨lines, .challenges h⟩

theorem ends_credentials {log : List LogEntry} {request : CredentialRequest}
    {next : Reply CredentialResponse → Exchange α} {t : List Message} {outcome : Except Failure α} :
    (Exchange.credentials log request next).Ends t outcome ↔
      ∃ reply rest, t = .credentials request reply :: rest ∧ (next reply).Ends rest outcome := by
  constructor
  · intro h
    obtain ⟨lines, h⟩ := h
    cases h with
    | credentials h => exact ⟨_, _, rfl, lines, h⟩
  · intro h
    obtain ⟨reply, rest, rfl, lines, h⟩ := h
    exact ⟨lines, .credentials h⟩

theorem asks_after {x : Exchange α} {log : List LogEntry} {t : List Message} :
    (x.after log).Asks t ↔ x.Asks t := by
  cases x with
  | finished result => simp only [after, asks_finished]
  | challenges => simp only [after, asks_challenges]
  | credentials => simp only [after, asks_credentials]

theorem ends_after {x : Exchange α} {log : List LogEntry} {t : List Message}
    {outcome : Except Failure α} : (x.after log).Ends t outcome ↔ x.Ends t outcome := by
  cases x with
  | finished result => simp only [after, ends_finished]
  | challenges => simp only [after, ends_challenges]
  | credentials => simp only [after, ends_credentials]

theorem ends_ofAudited {check : Audited α} {t : List Message} {outcome : Except Failure α} :
    (ofAudited check).Ends t outcome ↔ t = [] ∧ check.outcome = outcome :=
  ends_finished

theorem ends_pure {a : α} {t : List Message} {outcome : Except Failure α} :
    (pure a : Exchange α).Ends t outcome ↔ t = [] ∧ .ok a = outcome :=
  ends_finished

theorem ends_refuse {failure : Failure} {t : List Message} {outcome : Except Failure α} :
    (refuse failure : Exchange α).Ends t outcome ↔ t = [] ∧ .error failure = outcome :=
  ends_finished

theorem not_ends_refuse_ok {failure : Failure} {t : List Message} {a : α} :
    ¬ (refuse failure : Exchange α).Ends t (.ok a) := by
  intro h
  cases (ends_refuse.1 h).2

/-! ### Exchanges run in order -/

/-- Two exchanges have asked what the first one asks, or all that it asks until it succeeds and then what the second
one asks. -/
theorem asks_bind {x : Exchange α} {f : α → Exchange β} {t : List Message} :
    (x >>= f).Asks t ↔
      x.Asks t ∨ ∃ s a r, t = s ++ r ∧ x.Ends s (.ok a) ∧ (f a).Asks r := by
  show (x.bind f).Asks t ↔ _
  -- a transcript of both is cut where the first exchange ends, which the induction is on
  induction x generalizing t with
  | finished result =>
    obtain ⟨outcome, log⟩ := result
    cases outcome with
    | error failure => simp [Exchange.bind, asks_finished, ends_finished]
    | ok a =>
      simp only [Exchange.bind, asks_after, asks_finished, ends_finished]
      constructor
      · intro h
        exact .inr ⟨[], a, t, rfl, ⟨rfl, rfl⟩, h⟩
      · intro h
        rcases h with rfl | ⟨s, b, r, rfl, ⟨rfl, hb⟩, h⟩
        · exact ⟨_, .here _⟩
        · cases hb
          exact h
  | challenges log request next ih =>
    simp only [Exchange.bind, asks_challenges, ih, ends_challenges]
    constructor
    · intro h
      rcases h with rfl | ⟨reply, rest, rfl, h | ⟨s, a, r, rfl, hs, h⟩⟩
      · exact .inl (.inl rfl)
      · exact .inl (.inr ⟨reply, rest, rfl, h⟩)
      · exact .inr ⟨.challenges request reply :: s, a, r, rfl, ⟨reply, s, rfl, hs⟩, h⟩
    · intro h
      rcases h with (rfl | ⟨reply, rest, rfl, h⟩) | ⟨_, a, r, rfl, ⟨reply, s, rfl, hs⟩, h⟩
      · exact .inl rfl
      · exact .inr ⟨reply, rest, rfl, .inl h⟩
      · exact .inr ⟨reply, s ++ r, rfl, .inr ⟨s, a, r, rfl, hs, h⟩⟩
  | credentials log request next ih =>
    simp only [Exchange.bind, asks_credentials, ih, ends_credentials]
    constructor
    · intro h
      rcases h with rfl | ⟨reply, rest, rfl, h | ⟨s, a, r, rfl, hs, h⟩⟩
      · exact .inl (.inl rfl)
      · exact .inl (.inr ⟨reply, rest, rfl, h⟩)
      · exact .inr ⟨.credentials request reply :: s, a, r, rfl, ⟨reply, s, rfl, hs⟩, h⟩
    · intro h
      rcases h with (rfl | ⟨reply, rest, rfl, h⟩) | ⟨_, a, r, rfl, ⟨reply, s, rfl, hs⟩, h⟩
      · exact .inl rfl
      · exact .inr ⟨reply, rest, rfl, .inl h⟩
      · exact .inr ⟨reply, s ++ r, rfl, .inr ⟨s, a, r, rfl, hs, h⟩⟩

/-- Two exchanges end as the first one does if it fails, else as the second one does. -/
theorem ends_bind {x : Exchange α} {f : α → Exchange β} {t : List Message}
    {outcome : Except Failure β} :
    (x >>= f).Ends t outcome ↔
      (∃ failure, x.Ends t (.error failure) ∧ outcome = .error failure) ∨
      ∃ s a r, t = s ++ r ∧ x.Ends s (.ok a) ∧ (f a).Ends r outcome := by
  show (x.bind f).Ends t _ ↔ _
  induction x generalizing t with
  | finished result =>
    obtain ⟨result, log⟩ := result
    cases result with
    | error failure =>
      simp only [Exchange.bind, ends_finished]
      constructor
      · intro h
        obtain ⟨rfl, h⟩ := h
        exact .inl ⟨failure, ⟨rfl, rfl⟩, h.symm⟩
      · intro h
        rcases h with ⟨e, ⟨rfl, he⟩, h⟩ | ⟨s, a, r, _, ⟨_, ha⟩, _⟩
        · cases he
          exact ⟨rfl, h.symm⟩
        · cases ha
    | ok a =>
      simp only [Exchange.bind, ends_after, ends_finished]
      constructor
      · intro h
        exact .inr ⟨[], a, t, rfl, ⟨rfl, rfl⟩, h⟩
      · intro h
        rcases h with ⟨e, ⟨_, he⟩, _⟩ | ⟨s, c, r, rfl, ⟨rfl, hc⟩, h⟩
        · cases he
        · cases hc
          exact h
  | challenges log request next ih =>
    simp only [Exchange.bind, ends_challenges, ih]
    constructor
    · intro h
      obtain ⟨reply, rest, rfl, ⟨e, he, h⟩ | ⟨s, a, r, rfl, hs, h⟩⟩ := h
      · exact .inl ⟨e, ⟨reply, rest, rfl, he⟩, h⟩
      · exact .inr ⟨.challenges request reply :: s, a, r, rfl, ⟨reply, s, rfl, hs⟩, h⟩
    · intro h
      rcases h with ⟨e, ⟨reply, rest, rfl, he⟩, h⟩ | ⟨_, a, r, rfl, ⟨reply, s, rfl, hs⟩, h⟩
      · exact ⟨reply, rest, rfl, .inl ⟨e, he, h⟩⟩
      · exact ⟨reply, s ++ r, rfl, .inr ⟨s, a, r, rfl, hs, h⟩⟩
  | credentials log request next ih =>
    simp only [Exchange.bind, ends_credentials, ih]
    constructor
    · intro h
      obtain ⟨reply, rest, rfl, ⟨e, he, h⟩ | ⟨s, a, r, rfl, hs, h⟩⟩ := h
      · exact .inl ⟨e, ⟨reply, rest, rfl, he⟩, h⟩
      · exact .inr ⟨.credentials request reply :: s, a, r, rfl, ⟨reply, s, rfl, hs⟩, h⟩
    · intro h
      rcases h with ⟨e, ⟨reply, rest, rfl, he⟩, h⟩ | ⟨_, a, r, rfl, ⟨reply, s, rfl, hs⟩, h⟩
      · exact ⟨reply, rest, rfl, .inl ⟨e, he, h⟩⟩
      · exact ⟨reply, s ++ r, rfl, .inr ⟨s, a, r, rfl, hs, h⟩⟩

theorem ends_bind_ok {x : Exchange α} {f : α → Exchange β} {t : List Message} {b : β} :
    (x >>= f).Ends t (.ok b) ↔
      ∃ s a r, t = s ++ r ∧ x.Ends s (.ok a) ∧ (f a).Ends r (.ok b) := by
  rw [ends_bind]
  constructor
  · intro h
    rcases h with ⟨_, _, h⟩ | h
    · cases h
    · exact h
  · exact .inr

theorem ends_bind_error {x : Exchange α} {f : α → Exchange β} {t : List Message} {failure : Failure} :
    (x >>= f).Ends t (.error failure) ↔
      x.Ends t (.error failure) ∨
        ∃ s a r, t = s ++ r ∧ x.Ends s (.ok a) ∧ (f a).Ends r (.error failure) := by
  rw [ends_bind]
  constructor
  · intro h
    rcases h with ⟨_, hx, he⟩ | h
    · cases he
      exact .inl hx
    · exact .inr h
  · intro h
    rcases h with hx | h
    · exact .inl ⟨failure, hx, rfl⟩
    · exact .inr h

/-- An exchange of one request, which is met as `met` says when it succeeds, in front of another exchange. -/
theorem ends_single_bind_error {x : Exchange α} {f : α → Exchange β} {t : List Message}
    {failure : Failure} {met : α → Message} (h : ∀ s a, x.Ends s (.ok a) ↔ s = [met a]) :
    (x >>= f).Ends t (.error failure) ↔
      x.Ends t (.error failure) ∨ ∃ a rest, t = met a :: rest ∧ (f a).Ends rest (.error failure) := by
  rw [ends_bind_error]
  refine or_congr_right ?_
  constructor
  · intro hends
    obtain ⟨s, a, rest, rfl, hs, hrest⟩ := hends
    rw [(h s a).1 hs]
    exact ⟨a, rest, rfl, hrest⟩
  · intro hends
    obtain ⟨a, rest, rfl, hrest⟩ := hends
    exact ⟨[met a], a, rest, rfl, (h _ a).2 rfl, hrest⟩

/-- A check in front of an exchange asks nothing, and nothing is asked unless it passes. -/
theorem asks_ofAudited_bind {check : Audited α} {f : α → Exchange β} {t : List Message} :
    (ofAudited check >>= f).Asks t ↔ t = [] ∨ ∃ a, check.outcome = .ok a ∧ (f a).Asks t := by
  rw [asks_bind]
  simp only [ofAudited, asks_finished, ends_finished]
  constructor
  · intro h
    rcases h with rfl | ⟨s, a, r, rfl, ⟨rfl, ha⟩, h⟩
    · exact .inl rfl
    · exact .inr ⟨a, ha, h⟩
  · intro h
    rcases h with rfl | ⟨a, ha, h⟩
    · exact .inl rfl
    · exact .inr ⟨[], a, t, rfl, ⟨rfl, ha⟩, h⟩

theorem ends_ofAudited_bind_ok {check : Audited α} {f : α → Exchange β} {t : List Message} {b : β} :
    (ofAudited check >>= f).Ends t (.ok b) ↔
      ∃ a, check.outcome = .ok a ∧ (f a).Ends t (.ok b) := by
  rw [ends_bind_ok]
  simp only [ends_ofAudited]
  constructor
  · intro h
    obtain ⟨s, a, r, rfl, ⟨rfl, ha⟩, h⟩ := h
    exact ⟨a, ha, h⟩
  · intro h
    obtain ⟨a, ha, h⟩ := h
    exact ⟨[], a, t, rfl, ⟨rfl, ha⟩, h⟩

theorem ends_ofAudited_bind_error {check : Audited α} {f : α → Exchange β} {t : List Message}
    {failure : Failure} :
    (ofAudited check >>= f).Ends t (.error failure) ↔
      (t = [] ∧ check.outcome = .error failure) ∨
        ∃ a, check.outcome = .ok a ∧ (f a).Ends t (.error failure) := by
  rw [ends_bind_error]
  simp only [ends_ofAudited]
  constructor
  · intro h
    rcases h with h | ⟨s, a, r, rfl, ⟨rfl, ha⟩, h⟩
    · exact .inl h
    · exact .inr ⟨a, ha, h⟩
  · intro h
    rcases h with h | ⟨a, ha, h⟩
    · exact .inl h
    · exact .inr ⟨[], a, t, rfl, ⟨rfl, ha⟩, h⟩

/-! ### Single requests -/

theorem outcome_ofReply {channel : String} {reply : Reply α} {a : α} :
    (ofReply channel reply).outcome = .ok a ↔ reply = .answered a := by
  cases reply <;> simp [ofReply]

theorem ends_askChallenges {request : ChallengeRequest} {t : List Message}
    {response : ChallengeResponse} :
    (askChallenges request).Ends t (.ok response) ↔
      t = [.challenges request (.answered response)] := by
  simp only [askChallenges, ends_challenges, ends_finished, outcome_ofReply]
  constructor
  · intro h
    obtain ⟨reply, rest, rfl, rfl, rfl⟩ := h
    rfl
  · intro h
    subst h
    exact ⟨_, [], rfl, rfl, rfl⟩

theorem ends_askCredentials {request : CredentialRequest} {t : List Message}
    {response : CredentialResponse} :
    (askCredentials request).Ends t (.ok response) ↔
      t = [.credentials request (.answered response)] := by
  simp only [askCredentials, ends_credentials, ends_finished, outcome_ofReply]
  constructor
  · intro h
    obtain ⟨reply, rest, rfl, rfl, rfl⟩ := h
    rfl
  · intro h
    subst h
    exact ⟨_, [], rfl, rfl, rfl⟩

/-- An exchange that finishes on every response asks for that response and nothing else. -/
theorem asks_askChallenges_bind {request : ChallengeRequest}
    {f : ChallengeResponse → Exchange α} (h : ∀ response, ∃ result, f response = .finished result)
    {t : List Message} :
    (askChallenges request >>= f).Asks t ↔ t = [] ∨ ∃ reply, t = [.challenges request reply] := by
  rw [asks_bind]
  simp only [askChallenges, asks_challenges, asks_finished]
  constructor
  · intro h
    rcases h with (rfl | ⟨reply, rest, rfl, rfl⟩) | ⟨s, response, r, rfl, hs, hr⟩
    · exact .inl rfl
    · exact .inr ⟨reply, rfl⟩
    · obtain ⟨result, hf⟩ := h response
      rw [hf, asks_finished] at hr
      rw [hr, ends_askChallenges.1 hs]
      exact .inr ⟨_, rfl⟩
  · intro h
    rcases h with rfl | ⟨reply, rfl⟩
    · exact .inl (.inl rfl)
    · exact .inl (.inr ⟨reply, [], rfl, rfl⟩)

theorem asks_askCredentials_bind {request : CredentialRequest}
    {f : CredentialResponse → Exchange α} (h : ∀ response, ∃ result, f response = .finished result)
    {t : List Message} :
    (askCredentials request >>= f).Asks t ↔
      t = [] ∨ ∃ reply, t = [.credentials request reply] := by
  rw [asks_bind]
  simp only [askCredentials, asks_credentials, asks_finished]
  constructor
  · intro h
    rcases h with (rfl | ⟨reply, rest, rfl, rfl⟩) | ⟨s, response, r, rfl, hs, hr⟩
    · exact .inl rfl
    · exact .inr ⟨reply, rfl⟩
    · obtain ⟨result, hf⟩ := h response
      rw [hf, asks_finished] at hr
      rw [hr, ends_askCredentials.1 hs]
      exact .inr ⟨_, rfl⟩
  · intro h
    rcases h with rfl | ⟨reply, rfl⟩
    · exact .inl (.inl rfl)
    · exact .inl (.inr ⟨reply, [], rfl, rfl⟩)

theorem asks_consume {challenge : Challenge} {t : List Message} :
    (consume challenge).Asks t ↔
      t = [] ∨ ∃ reply, t = [.challenges (.consume challenge) reply] := by
  unfold consume
  exact asks_askChallenges_bind fun response => by cases response <;> exact ⟨_, rfl⟩

theorem asks_find {id : Bytes} {t : List Message} :
    (find id).Asks t ↔ t = [] ∨ ∃ reply, t = [.credentials (.find id) reply] := by
  unfold find
  exact asks_askCredentials_bind fun response => by cases response <;> exact ⟨_, rfl⟩

theorem asks_askToStore {request : CredentialRequest} {t : List Message} :
    (askToStore request).Asks t ↔ t = [] ∨ ∃ reply, t = [.credentials request reply] := by
  unfold askToStore
  exact asks_askCredentials_bind fun response => by cases response <;> exact ⟨_, rfl⟩

/-- A request in front of an exchange: the exchange goes on from an answer, and without one it is over. -/
theorem ends_askChallenges_bind {request : ChallengeRequest} {f : ChallengeResponse → Exchange α}
    {t : List Message} {outcome : Except Failure α} :
    (askChallenges request >>= f).Ends t outcome ↔
      ∃ reply rest,
        (match reply with
          | .answered response => (f response).Ends rest outcome
          | _ => rest = [] ∧ .error .storeUnavailable = outcome) ∧
        t = .challenges request reply :: rest := by
  show (Exchange.challenges [] request fun reply =>
    (Exchange.finished (ofReply "challenges" reply)).bind f).Ends t outcome ↔ _
  rw [ends_challenges]
  refine exists_congr fun reply => exists_congr fun rest => and_comm.trans (and_congr_left fun _ => ?_)
  cases reply with
  | answered response => exact ends_after
  | notSent => exact ends_finished
  | unanswered => exact ends_finished

theorem ends_askCredentials_bind {request : CredentialRequest} {f : CredentialResponse → Exchange α}
    {t : List Message} {outcome : Except Failure α} :
    (askCredentials request >>= f).Ends t outcome ↔
      ∃ reply rest,
        (match reply with
          | .answered response => (f response).Ends rest outcome
          | _ => rest = [] ∧ .error .storeUnavailable = outcome) ∧
        t = .credentials request reply :: rest := by
  show (Exchange.credentials [] request fun reply =>
    (Exchange.finished (ofReply "credentials" reply)).bind f).Ends t outcome ↔ _
  rw [ends_credentials]
  refine exists_congr fun reply => exists_congr fun rest => and_comm.trans (and_congr_left fun _ => ?_)
  cases reply with
  | answered response => exact ends_after
  | notSent => exact ends_finished
  | unanswered => exact ends_finished

/-- A challenge is taken back by the one response that hands it over. -/
theorem ends_consume {challenge taken : Challenge} {t : List Message} :
    (consume challenge).Ends t (.ok taken) ↔
      t = [.challenges (.consume challenge) (.answered (.consumed taken))] := by
  unfold consume
  rw [ends_askChallenges_bind]
  constructor
  · intro h
    obtain ⟨reply, rest, h, rfl⟩ := h
    cases reply with
    | answered response =>
      cases response with
      | consumed found =>
        obtain ⟨rfl, he⟩ := ends_pure.1 h
        cases he
        rfl
      | _ => exact absurd h not_ends_refuse_ok
    | _ => cases h.2
  · intro h
    exact ⟨.answered (.consumed taken), [], ends_pure.2 ⟨rfl, rfl⟩, h⟩

theorem ends_find {id : Bytes} {credential : Credential} {t : List Message} :
    (find id).Ends t (.ok credential) ↔
      t = [.credentials (.find id) (.answered (.credential credential))] := by
  unfold find
  rw [ends_askCredentials_bind]
  constructor
  · intro h
    obtain ⟨reply, rest, h, rfl⟩ := h
    cases reply with
    | answered response =>
      cases response with
      | credential found =>
        obtain ⟨rfl, he⟩ := ends_pure.1 h
        cases he
        rfl
      | _ => exact absurd h not_ends_refuse_ok
    | _ => cases h.2
  · intro h
    exact ⟨.answered (.credential credential), [], ends_pure.2 ⟨rfl, rfl⟩, h⟩

theorem ends_askToStore {request : CredentialRequest} {t : List Message} :
    (askToStore request).Ends t (.ok ()) ↔ t = [.credentials request (.answered .stored)] := by
  unfold askToStore
  rw [ends_askCredentials_bind]
  constructor
  · intro h
    obtain ⟨reply, rest, h, rfl⟩ := h
    cases reply with
    | answered response =>
      cases response with
      | stored => rw [(ends_pure.1 h).1]
      | _ => exact absurd h not_ends_refuse_ok
    | _ => cases h.2
  · intro h
    exact ⟨.answered .stored, [], ends_pure.2 ⟨rfl, rfl⟩, h⟩

end Exchange

end WebAuthn
