import WebAuthn.Proofs.Interleaving.World

/-!
# The requests of one call

The history of a run tells who asked for what, in the order in which it was met. The requests of one call among them are
its transcript, whatever others ask for before, between and after.

* `World.asked` — the requests of a call that were met;
* `World.Attributed`, `World.attributed_run` — they are the transcript of the call;
* `World.leads_asked`, `World.ends_asked` — they are a transcript of its exchange;
* `World.exists_meets` — the step of a run that met one of them, and what the call had asked before it.
-/

namespace WebAuthn

open Exchange

/-- The request, if the call at the position made it. -/
def Event.of? (position : Nat) (event : Event) : Option Message :=
  if event.caller = some position then some event.message else none

namespace Event

variable {position : Nat} {event : Event} {message : Message}

theorem of?_self (position : Nat) (message : Message) :
    Event.of? position ⟨some position, message⟩ = some message :=
  if_pos rfl

theorem of?_eq_none (h : event.caller ≠ some position) : event.of? position = none :=
  if_neg h

theorem of?_eq_some : event.of? position = some message ↔ event = ⟨some position, message⟩ := by
  obtain ⟨caller, asked⟩ := event
  unfold of?
  constructor
  · intro h
    split at h
    · next hc =>
      cases hc
      cases h
      rfl
    · cases h
  · intro h
    cases h
    exact if_pos rfl

end Event

namespace World

variable {world : World} {position : Nat}

/-- The requests of the call at the position that were met, in order. -/
def asked (world : World) (position : Nat) : List Message :=
  world.history.filterMap (Event.of? position)

/-- What a call has asked so far; a call that was not started has asked nothing. -/
def transcript (world : World) (position : Nat) : List Message :=
  world.sessions[position]?.elim [] Session.transcript

/-- The history has the requests of each call as the call made them. -/
def Attributed (world : World) : Prop :=
  ∀ position, world.asked position = world.transcript position

/-! ### Steps -/

/-- The requests of a call after one more request was met. -/
theorem asked_record (world : World) (caller : Option Nat) (message : Message) (stores : Stores)
    (position : Nat) :
    (world.record caller message stores).asked position =
      world.asked position ++ (Event.of? position ⟨caller, message⟩).toList := by
  show (world.history ++ [(⟨caller, message⟩ : Event)]).filterMap (Event.of? position) = _
  rw [List.filterMap_append]
  cases h : Event.of? position ⟨caller, message⟩ with
  | none => rw [List.filterMap_cons_none h]; rfl
  | some found => rw [List.filterMap_cons_some h]; rfl

theorem transcript_advance {session : Session} {message : Message} {rest : Exchange Credential}
    {stores : Stores} (hs : world.sessions[position]? = some session) (other : Nat) :
    (world.advance position session message rest stores).transcript other =
      world.transcript other ++ (Event.of? other ⟨some position, message⟩).toList := by
  have hlt : position < world.sessions.length := (List.getElem?_eq_some_iff.1 hs).1
  show ((world.sessions.set position _)[other]?).elim [] Session.transcript = _
  by_cases hp : position = other
  · subst hp
    rw [List.getElem?_set_self hlt, Event.of?_self, transcript, hs]
    rfl
  · have hother : Event.of? other ⟨some position, message⟩ = none :=
      Event.of?_eq_none fun h => hp (Option.some.inj h)
    rw [List.getElem?_set_ne hp, hother, transcript]
    exact (List.append_nil _).symm

theorem transcript_start (world : World) (call : Call) (position : Nat) :
    (world.step (.start call)).transcript position = world.transcript position := by
  show ((world.sessions ++ [.opened call])[position]?).elim [] Session.transcript = _
  unfold transcript
  by_cases hlt : position < world.sessions.length
  · rw [List.getElem?_append_left hlt]
  · have hle : world.sessions.length ≤ position := Nat.le_of_not_lt hlt
    rw [List.getElem?_append_right hle, List.getElem?_eq_none hle]
    -- the new call has asked nothing, and behind it there is none
    cases position - world.sessions.length <;> rfl

theorem attributed_start (stores : Stores) : Attributed (.start stores) :=
  fun _ => rfl

theorem attributed_step (h : Attributed world) (action : Action) :
    Attributed (world.step action) := by
  intro position
  have he := step_effect world action
  generalize world.step action = next at he ⊢
  -- a request of a call is added to its transcript and to the history at once, and other requests have no caller
  cases he with
  | start call => exact (h position).trans (transcript_start world call position).symm
  | idle _ _ => exact h position
  | @proceed other _ session message rest stores hs _ _ =>
    rw [transcript_advance hs, ← h position]
    exact asked_record world (some other) message stores position
  | challenges _ =>
    rw [asked_record, Event.of?_eq_none (Option.some_ne_none position).symm]
    exact (List.append_nil _).trans (h position)
  | credentials _ =>
    rw [asked_record, Event.of?_eq_none (Option.some_ne_none position).symm]
    exact (List.append_nil _).trans (h position)
  | stopChallenges => exact h position
  | stopCredentials => exact h position

/-! ### Runs -/

theorem attributed_run (stores : Stores) (schedule : List Action) :
    Attributed ((start stores).run schedule) :=
  run_keeps (attributed_start stores) fun _ action _ h => attributed_step h action

/-- What was met of the requests of a call leads its exchange to where it is. -/
theorem leads_asked (stores : Stores) (schedule : List Action) {session : Session}
    (hs : ((start stores).run schedule).sessions[position]? = some session) :
    session.call.exchange.Leads (((start stores).run schedule).asked position) session.rest := by
  rw [attributed_run stores schedule position, transcript, hs]
  exact (sound_run stores schedule).leads session (List.mem_of_getElem? hs)

/-- A call that has ended was met with a transcript that its exchange ends with. -/
theorem ends_asked (stores : Stores) (schedule : List Action) {session : Session}
    (hs : ((start stores).run schedule).sessions[position]? = some session)
    {outcome : Except Failure Credential} (ho : session.outcome? = some outcome) :
    session.call.exchange.Ends (((start stores).run schedule).asked position) outcome := by
  rw [attributed_run stores schedule position, transcript, hs]
  exact (sound_run stores schedule).ends (List.mem_of_getElem? hs) ho

/-- A request of a call that a step met is one of its requests from then on. -/
theorem mem_asked {action : Action} {message : Message}
    (h : world.Meets action ⟨some position, message⟩) (later : List Action) :
    message ∈ (world.run (action :: later)).asked position := by
  obtain ⟨added, ha⟩ := history_run (world.step action) later
  rw [asked, run_cons, ha, h]
  refine List.mem_filterMap.2 ⟨⟨some position, message⟩, ?_, Event.of?_self position message⟩
  exact List.mem_append_left _ (List.mem_append_right _ List.mem_cons_self)

/-- A request of a call was met by a step of the run, after the requests that the call made before it. -/
theorem exists_meets {stores : Stores} {schedule : List Action} {before after : List Message}
    {message : Message}
    (h : ((start stores).run schedule).asked position = before ++ message :: after) :
    ∃ first action second, schedule = first ++ action :: second ∧
      ((start stores).run first).asked position = before ∧
      ((start stores).run first).Meets action ⟨some position, message⟩ := by
  obtain ⟨front, back, hh, rfl, hback⟩ := List.filterMap_eq_append_iff.1 h
  obtain ⟨skipped, event, rest, rfl, hskipped, he, _⟩ := List.filterMap_eq_cons_iff.1 hback
  rw [Event.of?_eq_some] at he
  subst he
  rw [← List.append_assoc] at hh
  obtain ⟨first, action, second, rfl, hfirst, hstep⟩ :=
    @exists_step (start stores) schedule (front ++ skipped) rest _ (by rw [hh]; rfl)
  refine ⟨first, action, second, rfl, ?_, hstep⟩
  have hnone : skipped.filterMap (Event.of? position) = [] :=
    List.filterMap_eq_nil_iff.2 hskipped
  rw [asked, hfirst, start, List.nil_append, List.filterMap_append, hnone, List.append_nil]

end World

end WebAuthn
