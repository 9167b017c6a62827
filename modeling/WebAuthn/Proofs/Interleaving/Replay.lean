import WebAuthn.Proofs.Interleaving.World
import WebAuthn.Proofs.Store.Challenges

/-!
# Replay protection

A challenge that was handed out is in circulation until it is taken back once; what is accepted took its challenge back.
So the calls that are accepted on a challenge, those that wasted it and its circulation are all paid for by its issues.

* `Met.balance` — one request pays for what it takes: the step of the invariant;
* `World.Balanced`, `World.balanced_run` — the invariant of runs;
* `World.accepted_le_issued` — replay protection, for every schedule, every clock and every sequence of challenges that
  are handed out.
-/

namespace WebAuthn

open Exchange

/-! ### What a request takes and what pays for it -/

namespace Message

/-- Whether the request hands out the challenge. -/
def issues (challenge : Challenge) : Message → Bool
  | .challenges _ (.answered (.issued other)) => other = challenge
  | _ => false

def takes (challenge : Challenge) : Message → Bool
  | .challenges _ (.answered (.consumed other)) => other = challenge
  | _ => false

theorem takes_of_unanswered {message : Message} (h : message.isAnswered = false)
    (challenge : Challenge) : message.takes challenge = false := by
  cases message with
  | challenges request reply =>
    cases reply with
    | answered response => cases h
    | _ => rfl
  | credentials request reply => rfl

end Message

private theorem toNat_le_toNat {a b : Bool} (h : a = true → b = true) : a.toNat ≤ b.toNat := by
  cases a with
  | false => exact Nat.zero_le _
  | true => exact Nat.le_of_eq (congrArg Bool.toNat (h rfl)).symm

/-- What a request takes out of circulation was there, and what it adds is paid for by an issue. -/
theorem ChallengeStore.balance (store : ChallengeStore) (now : Instant) (fresh challenge : Challenge)
    (request : ChallengeRequest) :
    let message := Message.challenges request (.answered (store.handle now fresh request).1)
    (message.takes challenge).toNat +
        ((store.handle now fresh request).2.2.circulates challenge).toNat ≤
      (store.circulates challenge).toNat + (message.issues challenge).toNat := by
  cases request with
  | issue =>
    show 0 + (((store.prune now).insert fresh now).circulates challenge).toNat ≤
      (store.circulates challenge).toNat + (decide (fresh = challenge)).toNat
    by_cases hc : fresh = challenge
    · have hle := Bool.toNat_le (((store.prune now).insert fresh now).circulates challenge)
      rw [decide_eq_true hc, Bool.toNat_true]
      omega
    · -- pruning takes others out of circulation, so that there is no equation here
      have hle : (((store.prune now).insert fresh now).circulates challenge).toNat ≤
          (store.circulates challenge).toNat :=
        toNat_le_toNat fun h =>
          circulates_of_prune ((circulates_insert h).resolve_left (Ne.symm hc))
      omega
  | consume other =>
    have herase : ((store.erase other).circulates challenge).toNat ≤
        (store.circulates challenge).toNat :=
      toNat_le_toNat fun h => (circulates_erase h).2
    show (Message.takes challenge (.challenges _ (.answered (store.consumed now other).1))).toNat +
        ((store.erase other).circulates challenge).toNat ≤
      (store.circulates challenge).toNat +
        (Message.issues challenge (.challenges _ (.answered (store.consumed now other).1))).toNat
    cases hr : (store.consumed now other).1 with
    | issued _ => exact Nat.le_trans (Nat.le_of_eq (Nat.zero_add _)) (Nat.le_add_right_of_le herase)
    | rejected => exact Nat.le_trans (Nat.le_of_eq (Nat.zero_add _)) herase
    | consumed taken =>
      obtain ⟨rfl, hcirculates⟩ := circulates_of_consumed hr
      show (decide (taken = challenge)).toNat + _ ≤ _ + 0
      by_cases hc : taken = challenge
      · subst hc
        have hgone : (store.erase taken).circulates taken = false := by
          refine Bool.eq_false_iff.2 fun h => ?_
          exact (circulates_erase h).1 rfl
        rw [hcirculates, hgone, decide_eq_true rfl]
        exact Nat.le_refl _
      · rw [decide_eq_false hc, Bool.toNat_false, Nat.zero_add]
        exact herase

/-- How often a challenge is in circulation: once or not at all. -/
def Stores.circulating (stores : Stores) (challenge : Challenge) : Nat :=
  match stores.challenges with
  | some store => (store.circulates challenge).toNat
  | none => 0

/-- What a request that is met takes was in circulation, and what it adds is paid for by an issue. -/
theorem World.Met.balance {stores next : Stores} {message : Message}
    (h : World.Met stores message next) (challenge : Challenge) :
    (message.takes challenge).toNat + next.circulating challenge ≤
      stores.circulating challenge + (message.issues challenge).toNat := by
  cases h with
  | unanswered hn =>
    rw [Message.takes_of_unanswered hn challenge, Bool.toNat_false, Nat.zero_add]
    exact Nat.le_add_right _ _
  | @challenges store now fresh request hs =>
    have hbalance := store.balance now fresh challenge request
    unfold Stores.circulating
    rw [hs]
    exact hbalance
  | credentials request _ => exact Nat.le_of_eq (Nat.zero_add _)

/-! ### Calls that took a challenge -/

namespace Session

/-- Whether the call took the challenge back. -/
def took (session : Session) (challenge : Challenge) : Bool :=
  session.transcript.any (Message.takes challenge)

/-- Whether the call succeeded and its client data presents the challenge. -/
def accepted (session : Session) (challenge : Challenge) : Bool :=
  match session.outcome? with
  | some (.ok _) => session.call.presented? == some challenge.bytes
  | _ => false

/-- Whether the call failed after it took the challenge back. -/
def wasted (session : Session) (challenge : Challenge) : Bool :=
  match session.outcome? with
  | some (.error _) => session.took challenge
  | _ => false

theorem accepted_iff {session : Session} {challenge : Challenge} :
    session.accepted challenge = true ↔
      (∃ credential, session.outcome? = some (.ok credential)) ∧
        session.call.presented? = some challenge.bytes := by
  unfold accepted
  split
  · next credential ho => simp [ho]
  · next hn =>
    constructor
    · intro h
      cases h
    · intro h
      obtain ⟨⟨credential, ho⟩, _⟩ := h
      exact absurd ho (hn credential)

theorem wasted_iff {session : Session} {challenge : Challenge} :
    session.wasted challenge = true ↔
      (∃ failure, session.outcome? = some (.error failure)) ∧ session.took challenge = true := by
  unfold wasted
  split
  · next failure ho => simp [ho]
  · next hn =>
    constructor
    · intro h
      cases h
    · intro h
      obtain ⟨⟨failure, ho⟩, _⟩ := h
      exact absurd ho (hn failure)

end Session

namespace World

variable {world : World} {challenge : Challenge}

/-- How often the challenge was handed out so far. -/
def issued (world : World) (challenge : Challenge) : Nat :=
  world.history.countP fun event => event.message.issues challenge

/-- How many calls took the challenge back so far. -/
def taken (world : World) (challenge : Challenge) : Nat :=
  world.sessions.countP fun session => session.took challenge

/-- How many calls succeeded so far whose client data presents the challenge. -/
def accepted (world : World) (challenge : Challenge) : Nat :=
  world.sessions.countP fun session => session.accepted challenge

/-- How many calls failed so far after they took the challenge back. -/
def wasted (world : World) (challenge : Challenge) : Nat :=
  world.sessions.countP fun session => session.wasted challenge

theorem bytes_injective {a b : Challenge} (h : a.bytes = b.bytes) : a = b := by
  cases a
  cases b
  cases h
  rfl

/-- A call that succeeds took back the challenge that its client data presents. -/
theorem Sound.took_of_accepted (h : Sound world) {session : Session} (hs : session ∈ world.sessions)
    (ha : session.accepted challenge = true) : session.took challenge = true := by
  obtain ⟨⟨credential, ho⟩, hp⟩ := Session.accepted_iff.1 ha
  obtain ⟨found, hm, hf⟩ := Call.consumed_of_ends (h.ends hs ho)
  have he : found = challenge := by
    rw [hp] at hf
    exact bytes_injective (Option.some.inj hf).symm
  refine List.any_eq_true.2 ⟨_, hm, ?_⟩
  exact decide_eq_true he

/-! ### The invariant -/

/-- The calls that took the challenge back and its circulation are paid for by its issues. -/
def Balanced (challenge : Challenge) (world : World) : Prop :=
  world.taken challenge + world.stores.circulating challenge ≤ world.issued challenge

theorem issued_record (world : World) (caller : Option Nat) (message : Message) (stores : Stores)
    (challenge : Challenge) :
    (world.record caller message stores).issued challenge =
      world.issued challenge + (message.issues challenge).toNat := by
  show (world.history ++ [Event.mk caller message]).countP
    (fun event => event.message.issues challenge) = _
  rw [List.countP_append, List.countP_singleton]
  cases message.issues challenge <;> rfl

/-- A call that goes on has taken at most what its request took. -/
theorem taken_advance {position : Nat} {session : Session}
    (hs : world.sessions[position]? = some session) (message : Message) (rest : Exchange Credential)
    (stores : Stores) (challenge : Challenge) :
    (world.advance position session message rest stores).taken challenge ≤
      world.taken challenge + (message.takes challenge).toNat := by
  obtain ⟨hlt, hget⟩ := List.getElem?_eq_some_iff.1 hs
  show (world.sessions.set position
    (Session.mk session.call (session.transcript ++ [message]) rest)).countP
      (fun session => session.took challenge) ≤ _
  rw [List.countP_set hlt, hget]
  have hnew : Session.took ⟨session.call, session.transcript ++ [message], rest⟩ challenge =
      (session.took challenge || message.takes challenge) := by
    simp [Session.took]
  have hpos : session.took challenge = true → 0 < world.taken challenge := fun h =>
    List.countP_pos_iff.2 ⟨session, List.mem_of_getElem? hs, h⟩
  rw [hnew]
  unfold taken at hpos ⊢
  -- a call that took the challenge before is counted already
  cases ht : session.took challenge with
  | true =>
    have := hpos ht
    simp
    omega
  | false => cases message.takes challenge <;> simp

theorem balanced_step (h : Balanced challenge world) (action : Action) :
    Balanced challenge (world.step action) := by
  have he := step_effect world action
  generalize world.step action = next at he ⊢
  unfold Balanced at h ⊢
  cases he with
  | start call =>
    show (world.sessions ++ [Session.opened call]).countP (fun session => session.took challenge) +
      world.stores.circulating challenge ≤ world.issued challenge
    rw [List.countP_append, List.countP_singleton]
    exact h
  | idle position fate => exact h
  | @proceed position _ session message rest stores hs _ hm =>
    have hbalance := hm.balance challenge
    have htaken := taken_advance hs message rest stores challenge
    have hissued := issued_record world (some position) message stores challenge
    show _ + stores.circulating challenge ≤
      (world.record (some position) message stores).issued challenge
    omega
  | @challenges _ _ reply stores hm =>
    have hbalance := hm.balance challenge
    rw [issued_record]
    show world.taken challenge + stores.circulating challenge ≤ _
    omega
  | @credentials _ _ reply stores hm =>
    have hbalance := hm.balance challenge
    rw [issued_record]
    show world.taken challenge + stores.circulating challenge ≤ _
    omega
  | stopChallenges =>
    show world.taken challenge + 0 ≤ world.issued challenge
    omega
  | stopCredentials => exact h

theorem balanced_run (timeout : Nat) (credentials : Option CredentialStore) (challenge : Challenge)
    (schedule : List Action) :
    Balanced challenge ((start (freshStores timeout credentials)).run schedule) :=
  run_keeps (Nat.le_refl 0) fun _ action _ h => balanced_step h action

/-! ### Counting calls -/

/-- Two kinds that exclude each other and are of a third kind are together no more than that. -/
theorem countP_add_countP_le {α : Type} {p q r : α → Bool} {list : List α}
    (hp : ∀ a ∈ list, p a = true → r a = true) (hq : ∀ a ∈ list, q a = true → r a = true)
    (hpq : ∀ a ∈ list, p a = true → q a = false) : list.countP p + list.countP q ≤ list.countP r := by
  induction list with
  | nil => exact Nat.le_refl 0
  | cons a rest ih =>
    have hrest := ih (fun b hb => hp b (List.mem_cons_of_mem _ hb))
      (fun b hb => hq b (List.mem_cons_of_mem _ hb)) (fun b hb => hpq b (List.mem_cons_of_mem _ hb))
    simp only [List.countP_cons]
    by_cases hpa : p a = true
    · rw [if_pos hpa, hpq a List.mem_cons_self hpa, if_pos (hp a List.mem_cons_self hpa),
        if_neg Bool.false_ne_true]
      omega
    · rw [if_neg hpa]
      by_cases hqa : q a = true
      · rw [if_pos hqa, if_pos (hq a List.mem_cons_self hqa)]
        omega
      · rw [if_neg hqa]
        omega

/-- What there is at most one of stands at one position. -/
theorem position_unique {α : Type} {p : α → Bool} {list : List α} (h : list.countP p ≤ 1) {i j : Nat}
    {a b : α} (hi : list[i]? = some a) (hj : list[j]? = some b) (ha : p a = true) (hb : p b = true) :
    i = j := by
  induction list generalizing i j with
  | nil => simp at hi
  | cons head rest ih =>
    rw [List.countP_cons] at h
    cases i with
    | zero =>
      cases j with
      | zero => rfl
      | succ j =>
        cases hi
        have hpos : 0 < rest.countP p :=
          List.countP_pos_iff.2 ⟨b, List.mem_of_getElem? hj, hb⟩
        rw [if_pos ha] at h
        omega
    | succ i =>
      cases j with
      | zero =>
        cases hj
        have hpos : 0 < rest.countP p :=
          List.countP_pos_iff.2 ⟨a, List.mem_of_getElem? hi, ha⟩
        rw [if_pos hb] at h
        omega
      | succ j => rw [ih (by omega) hi hj]

/-- Calls that are accepted on the challenge and calls that wasted it took it back. -/
theorem Sound.accepted_add_wasted_le (h : Sound world) (challenge : Challenge) :
    world.accepted challenge + world.wasted challenge ≤ world.taken challenge := by
  refine countP_add_countP_le (fun session hs => h.took_of_accepted hs)
    (fun session _ hw => (Session.wasted_iff.1 hw).2) fun session _ ha => ?_
  refine Bool.eq_false_iff.2 fun hw => ?_
  obtain ⟨⟨credential, hok⟩, _⟩ := Session.accepted_iff.1 ha
  obtain ⟨⟨failure, herror⟩, _⟩ := Session.wasted_iff.1 hw
  rw [hok] at herror
  cases herror

/-- What was handed out pays for all: the calls that are accepted, those that wasted it, and what circulates. -/
theorem accepted_add_wasted_add_circulating_le (timeout : Nat)
    (credentials : Option CredentialStore) (schedule : List Action) (challenge : Challenge) :
    let world := (start (freshStores timeout credentials)).run schedule
    world.accepted challenge + world.wasted challenge + world.stores.circulating challenge ≤
      world.issued challenge := by
  have hsound := sound_run (freshStores timeout credentials) schedule
  have hcalls := hsound.accepted_add_wasted_le challenge
  have hbalanced := balanced_run timeout credentials challenge schedule
  exact Nat.le_trans (Nat.add_le_add_right hcalls _) hbalanced

/-- The calls that succeed and whose client data presents a challenge are never more than the times that it was handed
out. So if no challenge is handed out twice, no client data is accepted twice, of either ceremony; and a challenge that
was taken back by a call that failed is of no use: no call is accepted on it, and it is no longer in circulation. -/
theorem accepted_le_issued (timeout : Nat) (credentials : Option CredentialStore)
    (schedule : List Action) :
    let world := (start (freshStores timeout credentials)).run schedule
    (∀ challenge, world.accepted challenge ≤ world.issued challenge) ∧
      ((∀ challenge, world.issued challenge ≤ 1) →
        (∀ (i j : Nat) (first second : Session) (a b : Credential),
          world.sessions[i]? = some first → world.sessions[j]? = some second →
          first.outcome? = some (.ok a) → second.outcome? = some (.ok b) →
          first.call.clientDataJson = second.call.clientDataJson → i = j) ∧
        ∀ session ∈ world.sessions, ∀ challenge, session.wasted challenge = true →
          world.accepted challenge = 0 ∧ world.stores.circulating challenge = 0) := by
  intro world
  have hsound : Sound world := sound_run (freshStores timeout credentials) schedule
  have hle : ∀ challenge, world.accepted challenge + world.wasted challenge +
      world.stores.circulating challenge ≤ world.issued challenge :=
    accepted_add_wasted_add_circulating_le timeout credentials schedule
  refine ⟨fun challenge => ?_, fun honce => ⟨?_, ?_⟩⟩
  · have := hle challenge
    omega
  · intro i j first second a b hi hj ha hb hsame
    obtain ⟨challenge, _, hp⟩ := Call.consumed_of_ends (hsound.ends (List.mem_of_getElem? hi) ha)
    -- the second call presents the same challenge, and one call at most is accepted on it
    have hq : second.call.presented? = some challenge.bytes := by
      unfold Call.presented? at hp ⊢
      rw [← hsame]
      exact hp
    have hone : world.accepted challenge ≤ 1 := by
      have h1 := hle challenge
      have h2 := honce challenge
      omega
    exact position_unique hone hi hj (Session.accepted_iff.2 ⟨⟨a, ha⟩, hp⟩)
      (Session.accepted_iff.2 ⟨⟨b, hb⟩, hq⟩)
  · intro session hs challenge hw
    have hpos : 0 < world.wasted challenge := List.countP_pos_iff.2 ⟨session, hs, hw⟩
    have h1 := hle challenge
    have h2 := honce challenge
    omega

end World

end WebAuthn
