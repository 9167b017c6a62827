import WebAuthn.Proofs.Interleaving.World
import WebAuthn.Proofs.Store.Credentials

/-!
# What becomes of the credential under an id

Requests of many clients reach the credential store. A credential that is stored stays under its id, but for its sign
count, until it is removed or the store is gone.

* `Stores.credential?` — the credential under an id;
* `Message.writes`, `Message.Stored` — requests that ask for a change, and those that were granted one;
* `World.Met.keeps`, `Met.updates`, `Met.inserts`, `Met.finds` — what one request does to the credential under an id;
* `World.Met.unchanged`, `Met.elsewhere` — what one request leaves alone;
* `World.OneLifetime`, `World.credential_run` — what a run leaves of a credential that is not removed, by induction on
  the run;
* `World.oneLifetime_run` — calls remove nothing.
-/

namespace WebAuthn

open Exchange

/-- The credential under an id, if the store runs and has one. -/
def Stores.credential? (stores : Stores) (id : Bytes) : Option Credential :=
  stores.credentials.bind fun store => store.find? id

namespace Message

def Removes (id : Bytes) (message : Message) : Prop :=
  message = .credentials (.remove id) (.answered .stored)

/-- Whether the request asks the credential store for a change. -/
def writes : Message → Bool
  | .credentials request _ => request.writes
  | .challenges _ _ => false

/-- The request asks the credential store for a change, and is answered with having stored. -/
def Stored (message : Message) : Prop :=
  ∃ request, request.writes = true ∧ message = .credentials request (.answered .stored)

end Message

/-- The action is that of another client that removes the credential with the id. -/
def Action.Removes (id : Bytes) : Action → Prop
  | .credentials request _ => request = .remove id
  | _ => False

namespace World

variable {world : World} {id : Bytes}

/-! ### Requests -/

/-- What a request does to the credential under an id: it is removed, or it stays there with a sign count that was
written on the condition that the one before was expected. -/
theorem Met.keeps {stores next : Stores} {message : Message} (h : Met stores message next)
    {credential : Credential} (hc : stores.credential? id = some credential) :
    message.Removes id ∨ ∃ signCount,
      next.credential? id = some (credential.withSignCount signCount) ∧
      (signCount = credential.signCount ∨
        message = .credentials (.updateSignCount id credential.signCount signCount)
          (.answered .stored)) := by
  cases h with
  | unanswered _ => exact .inr ⟨credential.signCount, hc, .inl rfl⟩
  | challenges _ _ _ _ => exact .inr ⟨credential.signCount, hc, .inl rfl⟩
  | @credentials store request hs =>
    have hf : store.find? id = some credential := by
      rwa [Stores.credential?, hs] at hc
    obtain ⟨rfl, hr⟩ | ⟨signCount, hn, hw⟩ := CredentialStore.handle_keeps hf request
    · exact .inl (congrArg (fun response => Message.credentials _ (.answered response)) hr)
    · refine .inr ⟨signCount, hn, ?_⟩
      obtain hw | ⟨rfl, hr⟩ := hw
      · exact .inl hw
      · exact .inr (congrArg (fun response => Message.credentials _ (.answered response)) hr)

/-- A sign count that was written stands in the place of the expected one. -/
theorem Met.updates {stores next : Stores} {expected new : UInt32}
    (h : Met stores (.credentials (.updateSignCount id expected new) (.answered .stored)) next) :
    ∃ credential, stores.credential? id = some credential ∧ credential.signCount = expected ∧
      next.credential? id = some (credential.withSignCount new) := by
  obtain ⟨store, hs, hr, rfl⟩ := h.answered
  obtain ⟨credential, hf, he, hn⟩ := CredentialStore.handle_update hr
  refine ⟨credential, ?_, he, hn⟩
  rw [Stores.credential?, hs]
  exact hf

/-- A credential that was inserted stands where none stood. -/
theorem Met.inserts {stores next : Stores} {credential : Credential}
    (h : Met stores (.credentials (.insert credential) (.answered .stored)) next) :
    stores.credential? credential.id = none ∧ next.credential? credential.id = some credential := by
  obtain ⟨store, hs, hr, rfl⟩ := h.answered
  obtain ⟨hf, hn⟩ := CredentialStore.handle_insert hr
  refine ⟨?_, hn⟩
  rw [Stores.credential?, hs]
  exact hf

/-- A credential that was found stands under its id. -/
theorem Met.finds {stores next : Stores} {credential : Credential}
    (h : Met stores (.credentials (.find id) (.answered (.credential credential))) next) :
    next.credential? id = some credential := by
  obtain ⟨store, _, hr, rfl⟩ := h.answered
  show (store.handle (.find id)).2.2.find? id = some credential
  rw [CredentialStore.handle_unchanged (.inl rfl)]
  exact CredentialStore.handle_find hr

/-- A request that asks for no change, or is granted none, leaves the credentials as they are. -/
theorem Met.unchanged {stores next : Stores} {message : Message} (h : Met stores message next)
    (hn : ¬ message.Stored) : next.credentials = stores.credentials := by
  cases h with
  | unanswered _ => rfl
  | challenges _ _ _ _ => rfl
  | @credentials store request hs =>
    have hsame : (store.handle request).2.2 = store := by
      refine CredentialStore.handle_unchanged ?_
      cases hw : request.writes with
      | false => exact .inl rfl
      | true =>
        refine .inr fun hr => hn ⟨request, hw, ?_⟩
        rw [hr]
    rw [hsame]
    exact hs.symm

/-- A request changes nothing but what is under its id. -/
theorem Met.elsewhere {stores next : Stores} {request : CredentialRequest}
    {reply : Reply CredentialResponse} (h : Met stores (.credentials request reply) next)
    {other : Bytes} (ho : other ≠ request.id) :
    next.credential? other = stores.credential? other := by
  cases reply with
  | answered response =>
    obtain ⟨store, hs, _, rfl⟩ := h.answered
    unfold Stores.credential?
    rw [hs]
    exact CredentialStore.handle_elsewhere ho
  | notSent =>
    cases h with
    | unanswered _ => rfl
  | unanswered =>
    cases h with
    | unanswered _ => rfl

/-! ### Stores that are gone -/

theorem Met.closed {stores next : Stores} {message : Message} (h : Met stores message next)
    (hc : stores.credentials = none) : next.credentials = none := by
  cases h with
  | unanswered _ => exact hc
  | challenges _ _ _ _ => exact hc
  | credentials _ hs =>
    rw [hc] at hs
    cases hs

theorem closed_step (h : world.stores.credentials = none) (action : Action) :
    (world.step action).stores.credentials = none := by
  have he := step_effect world action
  generalize world.step action = next at he ⊢
  cases he with
  | proceed _ _ hm => exact hm.closed h
  | challenges hm => exact hm.closed h
  | credentials hm => exact hm.closed h
  | stopCredentials => rfl
  | _ => exact h

/-- A store that is gone stays away. -/
theorem closed_run (h : world.stores.credentials = none) (schedule : List Action) :
    (world.run schedule).stores.credentials = none :=
  @run_keeps world (·.stores.credentials = none) schedule h fun _ action _ hc => closed_step hc action

/-! ### Lifetimes -/

/-- The entries belong to one lifetime of the credential with the id: none of them removed it. -/
def OneLifetime (id : Bytes) (events : List Event) : Prop :=
  ∀ event ∈ events, ¬ event.message.Removes id

theorem oneLifetime_append {first second : List Event} :
    OneLifetime id (first ++ second) ↔ OneLifetime id first ∧ OneLifetime id second :=
  List.forall_mem_append

/-- What the steps within a lifetime keep unless the store is gone, runs within a lifetime keep. -/
theorem lifetime_run (P : World → Prop) {schedule : List Action}
    (hstep : ∀ world, ∀ action ∈ schedule, P world → ∀ added,
      (world.step action).history = world.history ++ added → OneLifetime id added →
      (world.step action).stores.credentials = none ∨ P (world.step action))
    (h : P world) {added : List Event}
    (hadded : (world.run schedule).history = world.history ++ added) (hlife : OneLifetime id added) :
    (world.run schedule).stores.credentials = none ∨ P (world.run schedule) := by
  induction schedule generalizing world added with
  | nil => exact .inr h
  | cons action rest ih =>
    rw [run_cons] at hadded ⊢
    obtain ⟨new, hnew⟩ : ∃ new, (world.step action).history = world.history ++ new :=
      history_run world [action]
    obtain ⟨more, hmore⟩ := history_run (world.step action) rest
    have hsplit : added = new ++ more := by
      rw [hmore, hnew, List.append_assoc] at hadded
      exact (List.append_cancel_left hadded).symm
    rw [hsplit] at hlife
    obtain ⟨hlifeNew, hlifeMore⟩ := oneLifetime_append.1 hlife
    obtain hclosed | hnext := hstep world action List.mem_cons_self h new hnew hlifeNew
    · exact .inl (closed_run hclosed rest)
    · exact ih (fun world later hl => hstep world later (List.mem_cons_of_mem _ hl)) hnext hmore
        hlifeMore

/-- A step within a lifetime meets a request that does not remove the credential, or it meets none and at most closes
the store. -/
theorem lifetime_step {action : Action} {added : List Event}
    (hadded : (world.step action).history = world.history ++ added) (hlife : OneLifetime id added) :
    (∃ event, world.Meets action event ∧ ¬ event.message.Removes id) ∨
      (world.step action).stores.credentials = world.stores.credentials ∨
        (world.step action).stores.credentials = none := by
  obtain hsame | ⟨event, hm⟩ := history_step world action
  · exact .inr (unmet_step hsame)
  · refine .inl ⟨event, hm, hlife event ?_⟩
    rw [hm] at hadded
    rw [← List.append_cancel_left hadded]
    exact List.mem_cons_self

/-- A step within a lifetime keeps the credential, but for its sign count. -/
theorem credential_step {credential : Credential}
    (hc : world.stores.credential? id = some credential) {action : Action} {added : List Event}
    (hadded : (world.step action).history = world.history ++ added) (hlife : OneLifetime id added) :
    (world.step action).stores.credentials = none ∨ ∃ signCount,
      (world.step action).stores.credential? id = some (credential.withSignCount signCount) := by
  obtain ⟨event, hm, hkept⟩ | hsame | hclosed := lifetime_step hadded hlife
  · obtain ⟨signCount, hn, _⟩ := (hm.met.keeps hc).resolve_left hkept
    exact .inr ⟨signCount, hn⟩
  · refine .inr ⟨credential.signCount, ?_⟩
    unfold Stores.credential? at hc ⊢
    rw [hsame]
    exact hc
  · exact .inl hclosed

/-- A credential that is not removed stays under its id, and only its sign count changes. -/
theorem credential_run {credential : Credential}
    (hc : world.stores.credential? id = some credential) {schedule : List Action}
    {added : List Event} (hadded : (world.run schedule).history = world.history ++ added)
    (hlife : OneLifetime id added) :
    (world.run schedule).stores.credentials = none ∨ ∃ signCount,
      (world.run schedule).stores.credential? id = some (credential.withSignCount signCount) := by
  refine lifetime_run
    (fun world => ∃ signCount,
      world.stores.credential? id = some (credential.withSignCount signCount))
    (fun world action _ hP added hadded hlife => ?_) ⟨credential.signCount, hc⟩ hadded hlife
  obtain ⟨signCount, hc⟩ := hP
  exact credential_step hc hadded hlife

/-- A step removes a credential only if another client asks for it: calls remove nothing. -/
theorem removes_step (h : Sound world) {action : Action} {event : Event}
    (hm : world.Meets action event) (hr : event.message.Removes id) : action.Removes id := by
  unfold Message.Removes at hr
  obtain ⟨call, hmay⟩ | ⟨_, _, _, _, hmessage⟩ | ⟨request, fate, reply, rfl, hmessage⟩ :=
    h.meets_cases hm
  · rw [hr] at hmay
    exact hmay.elim
  · rw [hr] at hmessage
    cases hmessage
  · rw [hr] at hmessage
    cases hmessage
    rfl

/-- The entries of a run are of one lifetime if no other client removes the credential. -/
theorem oneLifetime_run {stores : Stores} {schedule : List Action}
    (hw : ∀ action ∈ schedule, ¬ action.Removes id) :
    OneLifetime id ((start stores).run schedule).history := by
  have hkeeps := @run_keeps (start stores)
    (fun world => Sound world ∧ OneLifetime id world.history) schedule
    ⟨sound_start stores, fun _ he => absurd he List.not_mem_nil⟩
  refine (hkeeps fun world action ha hworld => ?_).2
  obtain ⟨hsound, hlife⟩ := hworld
  refine ⟨sound_step hsound action, ?_⟩
  obtain hsame | ⟨event, hm⟩ := history_step world action
  · rw [hsame]
    exact hlife
  · rw [hm]
    refine oneLifetime_append.2 ⟨hlife, fun other ho hr => ?_⟩
    rw [List.mem_singleton.1 ho] at hr
    exact hw action ha (removes_step hsound hm hr)

end World

end WebAuthn
