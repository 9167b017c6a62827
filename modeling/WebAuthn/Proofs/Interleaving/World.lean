import WebAuthn.Proofs.Interleaving.Ceremony

/-!
# Calls that share the stores

Any number of calls and other clients share the two stores. A call that waits for a reply goes on when its request is
met; a request is met at one moment between the one at which it is made and the one at which its reply is used, so
that the order of these moments is all that matters.

* `World`, `Action`, `World.step`, `World.run` — the stores with the calls in progress, and what can happen next;
* `World.Met`, `World.Effect` — what meeting a request and what one step can lead to, said once; `World.step_effect`;
* `World.calls_run` — the calls stand in the order in which they are started;
* `World.Sound`, `World.sound_run` — the transcripts of the calls are transcripts of their exchanges;
* `World.Meets` — the request that a step meets; `Meets.met`, `Sound.meets_cases`, `unmet_step`;
* `World.exists_step` — the step of a run that an entry of the history comes from.
-/

namespace WebAuthn

open Exchange

/-! ### States -/

/-- A call in progress: what it asked so far, and how it goes on. -/
structure Session where
  call : Call
  transcript : List Message
  rest : Exchange Credential

namespace Session

/-- A call that has asked nothing. -/
def opened (call : Call) : Session :=
  ⟨call, [], call.exchange⟩

/-- How the call ended, if it has. -/
def outcome? (session : Session) : Option (Except Failure Credential) :=
  match session.rest with
  | .finished result => some result.outcome
  | _ => none

end Session

/-- A request that was met, of a call or of another client. -/
structure Event where
  /-- The position of the call; other clients have none. -/
  caller : Option Nat
  message : Message
  deriving DecidableEq

/-- The stores, the calls in the order in which they were started, and the requests that were met so far. -/
structure World where
  stores : Stores
  sessions : List Session
  history : List Event

/-! ### Steps -/

/-- What becomes of a request: it is met at a time, with the challenge that is handed out next, or it is lost. -/
inductive Fate where
  | met (now : Instant) (fresh : Challenge)
  | lost

def Fate.backend : Fate → Backend Stores
  | met now fresh => Stores.backend now fresh
  | lost => ⟨fun _ stores => (.unanswered, [], stores), fun _ stores => (.unanswered, [], stores)⟩

/-- What can happen. -/
inductive Action where
  /-- A call is started. -/
  | start (call : Call)
  /-- The request that a call waits for is met, if it waits for one. -/
  | proceed (position : Nat) (fate : Fate)
  /-- Another client makes a request. -/
  | challenges (request : ChallengeRequest) (fate : Fate)
  | credentials (request : CredentialRequest) (fate : Fate)
  /-- A store goes away. -/
  | stopChallenges
  | stopCredentials

/-- The call that an action starts, if it starts one. -/
def Action.started? : Action → Option Call
  | .start call => some call
  | _ => none

def Message.isAnswered : Message → Bool
  | .challenges _ (.answered _) => true
  | .credentials _ (.answered _) => true
  | _ => false

namespace World

/-- The stores of a library that was just set up: no challenge is in circulation. -/
def freshStores (timeout : Nat) (credentials : Option CredentialStore) : Stores :=
  ⟨some (.empty timeout), credentials⟩

/-- The stores before any call. -/
def start (stores : Stores) : World :=
  ⟨stores, [], []⟩

/-- The world after a request of a caller was met. -/
def record (world : World) (caller : Option Nat) (message : Message) (stores : Stores) : World :=
  { world with stores, history := world.history ++ [⟨caller, message⟩] }

/-- The world after a request of a call was met and the call goes on. -/
def advance (world : World) (position : Nat) (session : Session) (message : Message)
    (rest : Exchange Credential) (stores : Stores) : World :=
  { world.record (some position) message stores with
    sessions :=
      world.sessions.set position ⟨session.call, session.transcript ++ [message], rest⟩ }

def step (world : World) : Action → World
  | .start call => { world with sessions := world.sessions ++ [.opened call] }
  | .proceed position fate =>
    match world.sessions[position]? with
    | none => world
    | some session =>
      match session.rest with
      | .finished _ => world
      | .challenges _ request next =>
        let (reply, _, stores) := fate.backend.challenges request world.stores
        world.advance position session (.challenges request reply) (next reply) stores
      | .credentials _ request next =>
        let (reply, _, stores) := fate.backend.credentials request world.stores
        world.advance position session (.credentials request reply) (next reply) stores
  | .challenges request fate =>
    let (reply, _, stores) := fate.backend.challenges request world.stores
    world.record none (.challenges request reply) stores
  | .credentials request fate =>
    let (reply, _, stores) := fate.backend.credentials request world.stores
    world.record none (.credentials request reply) stores
  | .stopChallenges => { world with stores := { world.stores with challenges := none } }
  | .stopCredentials => { world with stores := { world.stores with credentials := none } }

def run (world : World) (schedule : List Action) : World :=
  schedule.foldl step world

/-! ### What one step can do -/

/-- What meeting a request leads to: without an answer nothing changes, and an answer is that of the store. -/
inductive Met (stores : Stores) : Message → Stores → Prop where
  | unanswered {message : Message} : message.isAnswered = false → Met stores message stores
  | challenges {store : ChallengeStore} (now : Instant) (fresh : Challenge)
      (request : ChallengeRequest) : stores.challenges = some store →
      Met stores (.challenges request (.answered (store.handle now fresh request).1))
        { stores with challenges := some (store.handle now fresh request).2.2 }
  | credentials {store : CredentialStore} (request : CredentialRequest) :
      stores.credentials = some store →
      Met stores (.credentials request (.answered (store.handle request).1))
        { stores with credentials := some (store.handle request).2.2 }

theorem met_challenges (stores : Stores) (fate : Fate) (request : ChallengeRequest) :
    Met stores (.challenges request (fate.backend.challenges request stores).1)
      (fate.backend.challenges request stores).2.2 := by
  cases fate with
  | lost => exact .unanswered rfl
  | met now fresh =>
    obtain ⟨challenges, credentials⟩ := stores
    cases challenges with
    | none => exact .unanswered rfl
    | some store => exact .challenges now fresh request rfl

theorem met_credentials (stores : Stores) (fate : Fate) (request : CredentialRequest) :
    Met stores (.credentials request (fate.backend.credentials request stores).1)
      (fate.backend.credentials request stores).2.2 := by
  cases fate with
  | lost => exact .unanswered rfl
  | met now fresh =>
    obtain ⟨challenges, credentials⟩ := stores
    cases credentials with
    | none => exact .unanswered rfl
    | some store => exact .credentials request rfl

/-- A request to the credential store that is answered was handled by the store. -/
theorem Met.answered {stores next : Stores} {request : CredentialRequest}
    {response : CredentialResponse}
    (h : Met stores (.credentials request (.answered response)) next) :
    ∃ store, stores.credentials = some store ∧ (store.handle request).1 = response ∧
      next = { stores with credentials := some (store.handle request).2.2 } := by
  generalize hm : Message.credentials request (.answered response) = message at h
  cases h with
  | unanswered hn =>
    rw [← hm] at hn
    cases hn
  | challenges _ _ _ _ => cases hm
  | credentials _ hs =>
    cases hm
    exact ⟨_, hs, rfl, rfl⟩

/-- What a step can lead to. -/
inductive Effect (world : World) : Action → World → Prop where
  | start (call : Call) :
      Effect world (.start call) { world with sessions := world.sessions ++ [.opened call] }
  | idle (position : Nat) (fate : Fate) : Effect world (.proceed position fate) world
  | proceed {position : Nat} {fate : Fate} {session : Session} {message : Message}
      {rest : Exchange Credential} {stores : Stores} :
      world.sessions[position]? = some session → session.rest.Leads [message] rest →
      Met world.stores message stores →
      Effect world (.proceed position fate) (world.advance position session message rest stores)
  | challenges {request : ChallengeRequest} {fate : Fate} {reply : Reply ChallengeResponse}
      {stores : Stores} : Met world.stores (.challenges request reply) stores →
      Effect world (.challenges request fate) (world.record none (.challenges request reply) stores)
  | credentials {request : CredentialRequest} {fate : Fate} {reply : Reply CredentialResponse}
      {stores : Stores} : Met world.stores (.credentials request reply) stores →
      Effect world (.credentials request fate)
        (world.record none (.credentials request reply) stores)
  | stopChallenges :
      Effect world .stopChallenges { world with stores := { world.stores with challenges := none } }
  | stopCredentials :
      Effect world .stopCredentials
        { world with stores := { world.stores with credentials := none } }

theorem step_effect (world : World) (action : Action) : Effect world action (world.step action) := by
  cases action with
  | start call => exact .start call
  | proceed position fate =>
    unfold step
    simp only
    split
    · exact .idle position fate
    · next session hs =>
      split
      · exact .idle position fate
      · next log request next hr =>
        refine .proceed hs ?_ (met_challenges _ fate request)
        rw [hr]
        exact .challenges (.here _)
      · next log request next hr =>
        refine .proceed hs ?_ (met_credentials _ fate request)
        rw [hr]
        exact .credentials (.here _)
  | challenges request fate => exact .challenges (met_challenges _ fate request)
  | credentials request fate => exact .credentials (met_credentials _ fate request)
  | stopChallenges => exact .stopChallenges
  | stopCredentials => exact .stopCredentials

/-! ### Runs -/

variable {world : World}

theorem run_cons (world : World) (action : Action) (rest : List Action) :
    world.run (action :: rest) = (world.step action).run rest :=
  rfl

theorem run_singleton (world : World) (action : Action) : world.run [action] = world.step action :=
  rfl

theorem run_append (world : World) (first second : List Action) :
    world.run (first ++ second) = (world.run first).run second :=
  List.foldl_append

/-- What holds before a schedule and is kept by its steps holds after it. -/
theorem run_keeps {P : World → Prop} {schedule : List Action} (h : P world)
    (hstep : ∀ world, ∀ action ∈ schedule, P world → P (world.step action)) :
    P (world.run schedule) := by
  induction schedule generalizing world with
  | nil => exact h
  | cons action rest ih =>
    rw [run_cons]
    refine ih (hstep world action List.mem_cons_self h) fun world later hl => ?_
    exact hstep world later (List.mem_cons_of_mem _ hl)

/-! ### Calls -/

theorem calls_step (world : World) (action : Action) :
    (world.step action).sessions.map Session.call =
      world.sessions.map Session.call ++ action.started?.toList := by
  have he := step_effect world action
  generalize world.step action = next at he ⊢
  cases he with
  | start call => exact List.map_append
  | @proceed position fate session message rest stores hs _ _ =>
    -- a call that goes on is still the same call
    obtain ⟨hlt, rfl⟩ := List.getElem?_eq_some_iff.1 hs
    have hlength : position < (world.sessions.map Session.call).length := by
      rwa [List.length_map]
    have hcall : world.sessions[position].call = (world.sessions.map Session.call)[position] :=
      (List.getElem_map _).symm
    show (world.sessions.set position _).map Session.call = _ ++ []
    rw [List.map_set, List.append_nil, hcall]
    exact List.set_getElem_self _
  | _ => exact (List.append_nil _).symm

/-- The calls stand in the order in which they are started. -/
theorem calls_run (world : World) (schedule : List Action) :
    (world.run schedule).sessions.map Session.call =
      world.sessions.map Session.call ++ schedule.filterMap Action.started? := by
  induction schedule generalizing world with
  | nil => exact (List.append_nil _).symm
  | cons action rest ih =>
    rw [run_cons, ih, calls_step, List.append_assoc]
    cases h : action.started? with
    | none => rw [List.filterMap_cons_none h]; rfl
    | some call => rw [List.filterMap_cons_some h]; rfl

/-! ### Transcripts -/

/-- The transcripts of the calls are transcripts of their exchanges, and the history tells nothing about calls that is
not in them. -/
structure Sound (world : World) : Prop where
  leads : ∀ session ∈ world.sessions,
    session.call.exchange.Leads session.transcript session.rest
  recorded : ∀ event ∈ world.history, ∀ position, event.caller = some position →
    ∃ session, world.sessions[position]? = some session ∧ event.message ∈ session.transcript

theorem sound_start (stores : Stores) : Sound (.start stores) :=
  ⟨by simp [start], by simp [start]⟩

theorem Sound.record (h : Sound world) (message : Message) (stores : Stores) :
    Sound (world.record none message stores) := by
  refine ⟨h.leads, fun event he position hp => ?_⟩
  obtain he | he := List.mem_append.1 he
  · exact h.recorded event he position hp
  · rw [List.mem_singleton.1 he] at hp
    cases hp

theorem Sound.advance (h : Sound world) {position : Nat} {session : Session} {message : Message}
    {rest : Exchange Credential} (stores : Stores)
    (hs : world.sessions[position]? = some session) (hl : session.rest.Leads [message] rest) :
    Sound (world.advance position session message rest stores) := by
  have hlt : position < world.sessions.length := (List.getElem?_eq_some_iff.1 hs).1
  have hnew : (world.advance position session message rest stores).sessions[position]? =
      some ⟨session.call, session.transcript ++ [message], rest⟩ :=
    List.getElem?_set_self hlt
  refine ⟨fun other ho => ?_, fun event he other hother => ?_⟩
  · obtain ho | rfl := List.mem_or_eq_of_mem_set ho
    · exact h.leads other ho
    · exact (h.leads session (List.mem_of_getElem? hs)).trans hl
  · obtain he | he := List.mem_append.1 he
    · obtain ⟨found, hf, hm⟩ := h.recorded event he other hother
      by_cases hp : position = other
      · subst hp
        rw [hs] at hf
        cases hf
        exact ⟨_, hnew, List.mem_append_left _ hm⟩
      · refine ⟨found, ?_, hm⟩
        exact (List.getElem?_set_ne hp).trans hf
    · rw [List.mem_singleton.1 he] at hother ⊢
      cases hother
      exact ⟨_, hnew, List.mem_append_right _ List.mem_cons_self⟩

theorem sound_step (h : Sound world) (action : Action) : Sound (world.step action) := by
  have he := step_effect world action
  generalize world.step action = next at he ⊢
  cases he with
  | start call =>
    refine ⟨fun session hs => ?_, fun event he position hp => ?_⟩
    · obtain hs | hs := List.mem_append.1 hs
      · exact h.leads session hs
      · rw [List.mem_singleton.1 hs]
        exact .here _
    · obtain ⟨session, hs, hm⟩ := h.recorded event he position hp
      refine ⟨session, ?_, hm⟩
      exact (List.getElem?_append_left (List.getElem?_eq_some_iff.1 hs).1).trans hs
  | idle position fate => exact h
  | proceed hs hl _ => exact h.advance _ hs hl
  | challenges _ => exact h.record _ _
  | credentials _ => exact h.record _ _
  | stopChallenges => exact ⟨h.leads, h.recorded⟩
  | stopCredentials => exact ⟨h.leads, h.recorded⟩

theorem sound_run (stores : Stores) (schedule : List Action) :
    Sound ((start stores).run schedule) :=
  run_keeps (sound_start stores) fun _ action _ h => sound_step h action

/-- A call that has ended has a transcript that its exchange ends with. -/
theorem Sound.ends (h : Sound world) {session : Session} (hs : session ∈ world.sessions)
    {outcome : Except Failure Credential} (ho : session.outcome? = some outcome) :
    session.call.exchange.Ends session.transcript outcome := by
  have hl := h.leads session hs
  unfold Session.outcome? at ho
  split at ho
  · next result hr =>
    cases ho
    rw [hr] at hl
    exact ⟨result.log, hl⟩
  · cases ho

/-- The call at the position succeeded with the credential. -/
def Returned (world : World) (position : Nat) (credential : Credential) : Prop :=
  ∃ session, world.sessions[position]? = some session ∧
    session.outcome? = some (.ok credential)

/-- The credential that the call at the position returned, if it succeeded. -/
def returned? (world : World) (position : Nat) : Option Credential :=
  world.sessions[position]?.bind fun session => session.outcome?.bind Except.toOption

theorem returned?_eq_some {position : Nat} {credential : Credential} :
    world.returned? position = some credential ↔ world.Returned position credential := by
  have houtcome : ∀ outcome : Except Failure Credential,
      outcome.toOption = some credential ↔ outcome = .ok credential := by
    intro outcome
    cases outcome <;> simp [Except.toOption]
  simp only [returned?, Returned, Option.bind_eq_some_iff, houtcome, exists_eq_right]

/-! ### The history of a run -/

/-- A step adds at most one entry. -/
theorem history_step (world : World) (action : Action) :
    (world.step action).history = world.history ∨
      ∃ event, (world.step action).history = world.history ++ [event] := by
  have he := step_effect world action
  generalize world.step action = next at he ⊢
  cases he with
  | start call => exact .inl rfl
  | idle position fate => exact .inl rfl
  | proceed _ _ _ => exact .inr ⟨_, rfl⟩
  | challenges _ => exact .inr ⟨_, rfl⟩
  | credentials _ => exact .inr ⟨_, rfl⟩
  | stopChallenges => exact .inl rfl
  | stopCredentials => exact .inl rfl

theorem history_ne_append (world : World) (event : Event) :
    world.history ≠ world.history ++ [event] := by
  simp

/-- The step meets the request of the entry, which is what it adds to the history. -/
def Meets (world : World) (action : Action) (event : Event) : Prop :=
  (world.step action).history = world.history ++ [event]

theorem Meets.met {action : Action} {event : Event} (h : world.Meets action event) :
    Met world.stores event.message (world.step action).stores := by
  have he := step_effect world action
  unfold Meets at h
  generalize world.step action = next at he h ⊢
  cases he with
  | proceed _ _ hm =>
    cases List.append_cancel_left h
    exact hm
  | challenges hm =>
    cases List.append_cancel_left h
    exact hm
  | credentials hm =>
    cases List.append_cancel_left h
    exact hm
  | _ => exact absurd h (history_ne_append world event)

/-- The request that a step meets is one that a call may make, or the one that another client makes with the action. -/
theorem Sound.meets_cases (h : Sound world) {action : Action} {event : Event}
    (hm : world.Meets action event) :
    (∃ call : Call, call.MayAsk event.message) ∨
      (∃ request fate reply, action = .challenges request fate ∧
        event.message = .challenges request reply) ∨
      ∃ request fate reply, action = .credentials request fate ∧
        event.message = .credentials request reply := by
  have he := step_effect world action
  unfold Meets at hm
  generalize world.step action = next at he hm
  cases he with
  | @proceed position fate session message rest stores hs hl _ =>
    cases List.append_cancel_left hm
    have hasks : session.call.exchange.Asks (session.transcript ++ [message]) :=
      ⟨rest, (h.leads session (List.mem_of_getElem? hs)).trans hl⟩
    exact .inl ⟨session.call,
      Call.mayAsk_of_asks hasks message (List.mem_append_right _ List.mem_cons_self)⟩
  | challenges _ =>
    cases List.append_cancel_left hm
    exact .inr (.inl ⟨_, _, _, rfl, rfl⟩)
  | credentials _ =>
    cases List.append_cancel_left hm
    exact .inr (.inr ⟨_, _, _, rfl, rfl⟩)
  | _ => exact absurd hm (history_ne_append world event)

/-- A step that meets no request at most closes the credential store. -/
theorem unmet_step {action : Action} (h : (world.step action).history = world.history) :
    (world.step action).stores.credentials = world.stores.credentials ∨
      (world.step action).stores.credentials = none := by
  have he := step_effect world action
  generalize world.step action = next at he h ⊢
  cases he with
  | proceed _ _ _ => exact absurd h.symm (history_ne_append world _)
  | challenges _ => exact absurd h.symm (history_ne_append world _)
  | credentials _ => exact absurd h.symm (history_ne_append world _)
  | stopCredentials => exact .inr rfl
  | _ => exact .inl rfl

/-- Entries are only added. -/
theorem history_run (world : World) (schedule : List Action) :
    ∃ added, (world.run schedule).history = world.history ++ added := by
  induction schedule generalizing world with
  | nil => exact ⟨[], (List.append_nil _).symm⟩
  | cons action rest ih =>
    obtain ⟨added, ha⟩ := ih (world.step action)
    rw [run_cons, ha]
    obtain hs | ⟨event, hs⟩ := history_step world action
    · exact ⟨added, by rw [hs]⟩
    · exact ⟨event :: added, by rw [hs, List.append_assoc, List.singleton_append]⟩

/-- An entry that a run added was added by one of its steps. -/
theorem exists_step {schedule : List Action} {before after : List Event} {event : Event}
    (h : (world.run schedule).history = world.history ++ (before ++ event :: after)) :
    ∃ first action second, schedule = first ++ action :: second ∧
      (world.run first).history = world.history ++ before ∧
      ((world.run first).step action).history = (world.run first).history ++ [event] := by
  induction schedule generalizing world before with
  | nil =>
    have hl := congrArg List.length (List.self_eq_append_right.1 h)
    simp at hl
  | cons action rest ih =>
    rw [run_cons] at h
    obtain hs | ⟨new, hs⟩ := history_step world action
    · rw [← hs] at h
      obtain ⟨first, later, second, rfl, hf, hl⟩ := ih h
      exact ⟨action :: first, later, second, rfl, by rw [run_cons, hf, hs], hl⟩
    · obtain ⟨added, ha⟩ := history_run (world.step action) rest
      have heq : new :: added = before ++ event :: after := by
        rw [ha, hs, List.append_assoc] at h
        exact List.append_cancel_left h
      cases before with
      | nil =>
        cases heq
        exact ⟨[], action, rest, rfl, (List.append_nil _).symm, hs⟩
      | cons head before =>
        obtain ⟨rfl, hadded⟩ := List.cons.inj heq
        rw [hadded] at ha
        obtain ⟨first, later, second, rfl, hf, hl⟩ := ih ha
        refine ⟨action :: first, later, second, rfl, ?_, hl⟩
        rw [run_cons, hf, hs, List.append_assoc]
        rfl

end World

end WebAuthn
