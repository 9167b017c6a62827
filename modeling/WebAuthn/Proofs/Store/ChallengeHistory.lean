import Mathlib.Data.List.Induction
import WebAuthn.Proofs.Store.Challenges

/-!
# Challenges and their history

Whether a challenge can be taken back is decided by the requests made so far, and among these by the latest one that
handed it out or named it. Expired challenges are dropped now and then; no answer tells when.

* `ChallengeStore.TimedRequest`, `serve`, `serveUnpruned` — a request at a time, and how it is met by the store and by
  one that drops nothing; `after`, `responses` — whole runs of either;
* `ChallengeStore.IssuedAt`, `Usable` — what a history says about a challenge;
* `ChallengeStore.Reflects` — the store holds what the history says, up to expired challenges: the step lemmas
  `Reflects.serve`, `Reflects.serveUnpruned`, and the induction over runs `reflects_after`;
* `ChallengeStore.answers_follow_history` — the answers to consume requests, for every run under a clock that never goes
  backwards, and what follows for dropped and for rejected challenges.
-/

namespace WebAuthn.ChallengeStore

/-! ### Runs -/

/-- A request at a time, with the challenge that is handed out if one is asked for. -/
structure TimedRequest where
  time : Instant
  fresh : Challenge
  request : ChallengeRequest

/-- The challenge that a request hands out or names. -/
def TimedRequest.challenge (timed : TimedRequest) : Challenge :=
  match timed.request with
  | .issue => timed.fresh
  | .consume challenge => challenge

/-- A way to meet requests. -/
abbrev Service := ChallengeStore → TimedRequest → ChallengeResponse × ChallengeStore

def serve : Service := fun store timed =>
  let (response, _, next) := store.handle timed.time timed.fresh timed.request
  (response, next)

/-- How a store that drops nothing on its own meets a request. -/
def serveUnpruned : Service := fun store timed =>
  match timed.request with
  | .issue => (.issued timed.fresh, store.insert timed.fresh timed.time)
  | .consume challenge => ((store.consumed timed.time challenge).1, store.erase challenge)

def after (service : Service) (store : ChallengeStore) (requests : List TimedRequest) : ChallengeStore :=
  requests.foldl (fun store timed => (service store timed).2) store

def responses (service : Service) : ChallengeStore → List TimedRequest → List ChallengeResponse
  | _, [] => []
  | store, timed :: rest => (service store timed).1 :: responses service (service store timed).2 rest

/-- The clock never goes backwards. -/
def Chronological (requests : List TimedRequest) : Prop :=
  requests.Pairwise fun a b => a.time ≤ b.time

/-! ### What a history says -/

/-- The latest request that handed out or named a challenge. -/
def latest? (requests : List TimedRequest) (challenge : Challenge) : Option TimedRequest :=
  requests.reverse.find? fun timed => timed.challenge = challenge

/-- The latest request about a challenge handed it out, at a time. -/
def IssuedAt (requests : List TimedRequest) (challenge : Challenge) (issuedAt : Instant) : Prop :=
  ∃ timed, latest? requests challenge = some timed ∧ timed.request = .issue ∧ timed.time = issuedAt

/-- The latest request about a challenge handed it out, not longer ago than the timeout. -/
def Usable (timeout : Nat) (requests : List TimedRequest) (now : Instant) (challenge : Challenge) : Prop :=
  ∃ issuedAt, IssuedAt requests challenge issuedAt ∧ now - issuedAt ≤ timeout

variable {store : ChallengeStore} {requests : List TimedRequest} {timed : TimedRequest}
  {challenge : Challenge} {now issuedAt : Instant} {service : Service}

theorem latest?_append (requests : List TimedRequest) (timed : TimedRequest) (challenge : Challenge) :
    latest? (requests ++ [timed]) challenge =
      if timed.challenge = challenge then some timed else latest? requests challenge := by
  unfold latest?
  rw [List.reverse_append, List.reverse_singleton, List.singleton_append]
  by_cases h : timed.challenge = challenge
  · rw [if_pos h]
    exact List.find?_cons_of_pos (decide_eq_true h)
  · rw [if_neg h]
    exact List.find?_cons_of_neg (by simpa using h)

/-- The last request decides about its own challenge and changes nothing for the others. -/
theorem issuedAt_append :
    IssuedAt (requests ++ [timed]) challenge issuedAt ↔
      if timed.challenge = challenge then timed.request = .issue ∧ timed.time = issuedAt
      else IssuedAt requests challenge issuedAt := by
  unfold IssuedAt
  rw [latest?_append]
  by_cases h : timed.challenge = challenge
  · simp only [if_pos h, Option.some.injEq, exists_eq_left']
  · simp only [if_neg h]

theorem IssuedAt.unique {other : Instant} (h : IssuedAt requests challenge issuedAt)
    (ho : IssuedAt requests challenge other) : issuedAt = other := by
  obtain ⟨timed, hl, _, ht⟩ := h
  obtain ⟨timed', hl', _, ht'⟩ := ho
  rw [hl] at hl'
  cases hl'
  exact ht.symm.trans ht'

/-! ### Operations -/

variable {entry : Challenge × Instant}

theorem mem_prune :
    entry ∈ (store.prune now).issued ↔ entry ∈ store.issued ∧ now - entry.2 ≤ store.timeout := by
  show entry ∈ store.issued.filter _ ↔ _
  rw [List.mem_filter]
  exact and_congr_right fun _ => decide_eq_true_iff

theorem mem_erase :
    entry ∈ (store.erase challenge).issued ↔ entry ∈ store.issued ∧ entry.1 ≠ challenge := by
  show entry ∈ store.issued.filter _ ↔ _
  rw [List.mem_filter]
  exact and_congr_right fun _ => decide_eq_true_iff

theorem mem_insert :
    entry ∈ (store.insert challenge now).issued ↔
      entry = (challenge, now) ∨ entry ∈ store.issued ∧ entry.1 ≠ challenge := by
  show entry ∈ (challenge, now) :: (store.erase challenge).issued ↔ _
  rw [List.mem_cons, mem_erase]

/-! ### The store reflects its history -/

/-- What the store holds was handed out last as it says, and whatever was handed out last is held until it expires. -/
structure Reflects (store : ChallengeStore) (requests : List TimedRequest) (now : Instant) : Prop where
  sound : ∀ challenge issuedAt, (challenge, issuedAt) ∈ store.issued → IssuedAt requests challenge issuedAt
  complete : ∀ challenge issuedAt, IssuedAt requests challenge issuedAt → now - issuedAt ≤ store.timeout →
    (challenge, issuedAt) ∈ store.issued

namespace Reflects

/-- What has expired stays so. -/
theorem later {then' : Instant} (h : Reflects store requests now) (hle : now ≤ then') :
    Reflects store requests then' := by
  refine ⟨h.sound, fun challenge issuedAt hi hfresh => h.complete challenge issuedAt hi ?_⟩
  exact Int.le_trans (Int.sub_le_sub_right hle issuedAt) hfresh

theorem issuedAt?_eq_some (h : Reflects store requests now) :
    store.issuedAt? challenge = some issuedAt ↔ (challenge, issuedAt) ∈ store.issued := by
  have hfound : ∀ other, store.issuedAt? challenge = some other → (challenge, other) ∈ store.issued :=
    fun other ho => by
      obtain ⟨front, back, hsplit, _⟩ := List.lookup_eq_some_iff.1 ho
      rw [hsplit]
      simp
  constructor
  · exact hfound issuedAt
  · intro hm
    have hsome : store.circulates challenge = true := circulates_iff.2 ⟨issuedAt, hm⟩
    obtain ⟨other, ho⟩ := Option.isSome_iff_exists.1 hsome
    have hsame : other = issuedAt :=
      (h.sound _ _ (hfound other ho)).unique (h.sound _ _ hm)
    rw [ho, hsame]

/-- A challenge is taken back if the history says that it can be used. -/
theorem consumed_iff (h : Reflects store requests now) :
    (store.consumed now challenge).1 = .consumed challenge ↔
      Usable store.timeout requests now challenge := by
  unfold consumed Usable
  cases hi : store.issuedAt? challenge with
  | none =>
    refine ⟨fun hc => ChallengeResponse.noConfusion hc, fun hu => ?_⟩
    obtain ⟨issuedAt, hissued, hfresh⟩ := hu
    rw [h.issuedAt?_eq_some.2 (h.complete _ _ hissued hfresh)] at hi
    cases hi
  | some issuedAt =>
    have hissued : IssuedAt requests challenge issuedAt := h.sound _ _ (h.issuedAt?_eq_some.1 hi)
    have hfresh : (∃ other, IssuedAt requests challenge other ∧ now - other ≤ store.timeout) ↔
        now - issuedAt ≤ store.timeout := by
      constructor
      · rintro ⟨other, ho, hle⟩
        rwa [hissued.unique ho]
      · intro hle
        exact ⟨issuedAt, hissued, hle⟩
    rw [hfresh]
    by_cases hle : now - issuedAt ≤ store.timeout
    · have htest : store.isFresh now issuedAt = true := decide_eq_true hle
      simp [htest, hle]
    · have htest : store.isFresh now issuedAt = false := decide_eq_false hle
      simp [htest, hle]

theorem rejected_iff (h : Reflects store requests now) :
    (store.consumed now challenge).1 = .rejected ↔
      ¬ Usable store.timeout requests now challenge := by
  rw [← h.consumed_iff]
  unfold consumed
  cases store.issuedAt? challenge with
  | none => simp
  | some issuedAt =>
    simp only
    cases store.isFresh now issuedAt <;> simp

/-! ### One request -/

/-- Handing out a challenge. What is dropped before has expired. -/
theorem issue (h : Reflects store requests timed.time) (hrequest : timed.request = .issue)
    {kept : ChallengeStore} (htimeout : kept.timeout = store.timeout)
    (hkept : ∀ entry, entry ∈ kept.issued → entry ∈ store.issued)
    (hfresh : ∀ entry, entry ∈ store.issued → timed.time - entry.2 ≤ store.timeout →
      entry ∈ kept.issued) :
    Reflects (kept.insert timed.fresh timed.time) (requests ++ [timed]) timed.time := by
  have hchallenge : timed.challenge = timed.fresh := by
    rw [TimedRequest.challenge, hrequest]
  constructor
  · intro challenge issuedAt hm
    rw [issuedAt_append, hchallenge]
    obtain he | ⟨hm, hne⟩ := mem_insert.1 hm
    · cases he
      rw [if_pos rfl]
      exact ⟨hrequest, rfl⟩
    · rw [if_neg (Ne.symm hne)]
      exact h.sound _ _ (hkept _ hm)
  · intro challenge issuedAt hi hle
    rw [issuedAt_append, hchallenge] at hi
    have hle' : timed.time - issuedAt ≤ store.timeout := by
      rw [← htimeout]
      exact hle
    refine mem_insert.2 ?_
    by_cases hc : timed.fresh = challenge
    · rw [if_pos hc] at hi
      rw [← hi.2, hc]
      exact .inl rfl
    · rw [if_neg hc] at hi
      exact .inr ⟨hfresh _ (h.complete _ _ hi hle') hle', Ne.symm hc⟩

/-- Taking back a challenge, whatever the answer. -/
theorem consume (h : Reflects store requests now) (hrequest : timed.request = .consume challenge) :
    Reflects (store.erase challenge) (requests ++ [timed]) now := by
  have hchallenge : timed.challenge = challenge := by
    rw [TimedRequest.challenge, hrequest]
  have hnot : timed.request ≠ .issue := by
    rw [hrequest]
    exact ChallengeRequest.noConfusion
  constructor
  · intro other issuedAt hm
    obtain ⟨hm, hne⟩ := mem_erase.1 hm
    rw [issuedAt_append, hchallenge, if_neg (Ne.symm hne)]
    exact h.sound _ _ hm
  · intro other issuedAt hi hle
    rw [issuedAt_append, hchallenge] at hi
    by_cases hc : challenge = other
    · rw [if_pos hc] at hi
      exact absurd hi.1 hnot
    · rw [if_neg hc] at hi
      exact mem_erase.2 ⟨h.complete _ _ hi hle, Ne.symm hc⟩

theorem serve (h : Reflects store requests timed.time) :
    Reflects (serve store timed).2 (requests ++ [timed]) timed.time := by
  unfold ChallengeStore.serve handle
  cases hr : timed.request with
  | issue =>
    have hkept : ∀ entry, entry ∈ (store.prune timed.time).issued → entry ∈ store.issued :=
      fun entry hm => (mem_prune.1 hm).1
    exact h.issue hr rfl hkept fun entry hm hle => mem_prune.2 ⟨hm, hle⟩
  | consume challenge => exact h.consume hr

theorem serveUnpruned (h : Reflects store requests timed.time) :
    Reflects (serveUnpruned store timed).2 (requests ++ [timed]) timed.time := by
  unfold ChallengeStore.serveUnpruned
  cases hr : timed.request with
  | issue => exact h.issue hr rfl (fun _ hm => hm) (fun _ hm _ => hm)
  | consume challenge => exact h.consume hr

end Reflects

/-! ### Whole runs -/

/-- A service that keeps the store in step with its history, and answers as the store says. -/
structure Service.Faithful (service : Service) : Prop where
  timeout : ∀ store timed, (service store timed).2.timeout = store.timeout
  reflects : ∀ {store requests timed}, Reflects store requests timed.time →
    Reflects (service store timed).2 (requests ++ [timed]) timed.time
  issued : ∀ store timed, timed.request = .issue → (service store timed).1 = .issued timed.fresh
  consumed : ∀ store timed challenge, timed.request = .consume challenge →
    (service store timed).1 = (store.consumed timed.time challenge).1

theorem faithful_serve : serve.Faithful where
  timeout store timed := by
    unfold serve handle
    cases timed.request <;> rfl
  reflects h := h.serve
  issued store timed hr := by
    unfold serve handle
    rw [hr]
  consumed store timed challenge hr := by
    unfold serve handle
    rw [hr]

theorem faithful_serveUnpruned : serveUnpruned.Faithful where
  timeout store timed := by
    unfold serveUnpruned
    cases timed.request <;> rfl
  reflects h := h.serveUnpruned
  issued store timed hr := by
    unfold serveUnpruned
    rw [hr]
  consumed store timed challenge hr := by
    unfold serveUnpruned
    rw [hr]

theorem after_append (service : Service) (store : ChallengeStore) (requests : List TimedRequest)
    (timed : TimedRequest) :
    after service store (requests ++ [timed]) = (service (after service store requests) timed).2 := by
  rw [after, List.foldl_append]
  rfl

theorem responses_append (service : Service) (store : ChallengeStore) (requests : List TimedRequest)
    (timed : TimedRequest) :
    responses service store (requests ++ [timed]) =
      responses service store requests ++ [(service (after service store requests) timed).1] := by
  induction requests generalizing store with
  | nil => rfl
  | cons first rest ih =>
    rw [List.cons_append, responses, responses, ih]
    rfl

theorem timeout_after (hservice : service.Faithful) (store : ChallengeStore)
    (requests : List TimedRequest) : (after service store requests).timeout = store.timeout := by
  induction requests using List.reverseRecOn with
  | nil => rfl
  | append_singleton rest timed ih => rw [after_append, hservice.timeout, ih]

theorem chronological_append :
    Chronological (requests ++ [timed]) ↔
      Chronological requests ∧ ∀ earlier ∈ requests, earlier.time ≤ timed.time := by
  unfold Chronological
  rw [List.pairwise_append]
  simp

/-- After a run the store reflects its history, at any time from the last request on. -/
theorem reflects_after (hservice : service.Faithful) (timeoutSeconds : Nat)
    (hclock : Chronological requests) (hnow : ∀ earlier ∈ requests, earlier.time ≤ now) :
    Reflects (after service (empty timeoutSeconds) requests) requests now := by
  induction requests using List.reverseRecOn generalizing now with
  | nil =>
    constructor
    · intro challenge issuedAt hm
      cases hm
    · intro challenge issuedAt hi _
      obtain ⟨timed, hl, _⟩ := hi
      cases hl
  | append_singleton rest timed ih =>
    obtain ⟨hrest, hlast⟩ := chronological_append.1 hclock
    have hle : timed.time ≤ now := hnow timed (by simp)
    rw [after_append]
    exact (hservice.reflects (ih hrest hlast)).later hle

/-- Faithful services give the same answers. -/
theorem responses_eq {other : Service} (hservice : service.Faithful) (hother : other.Faithful)
    (timeoutSeconds : Nat) (hclock : Chronological requests) :
    responses service (empty timeoutSeconds) requests = responses other (empty timeoutSeconds) requests := by
  induction requests using List.reverseRecOn with
  | nil => rfl
  | append_singleton rest timed ih =>
    obtain ⟨hrest, hlast⟩ := chronological_append.1 hclock
    have ha := reflects_after hservice timeoutSeconds hrest hlast
    have hb := reflects_after hother timeoutSeconds hrest hlast
    rw [responses_append, responses_append, ih hrest]
    congr 2
    cases hr : timed.request with
    | issue => rw [hservice.issued _ _ hr, hother.issued _ _ hr]
    | consume challenge =>
      rw [hservice.consumed _ _ _ hr, hother.consumed _ _ _ hr]
      by_cases hu : Usable (empty timeoutSeconds).timeout rest timed.time challenge
      · rw [ha.consumed_iff.2 (by rwa [timeout_after hservice]),
          hb.consumed_iff.2 (by rwa [timeout_after hother])]
      · rw [ha.rejected_iff.2 (by rwa [timeout_after hservice]),
          hb.rejected_iff.2 (by rwa [timeout_after hother])]

/-- What the store holds right after it handed out a challenge has not expired. -/
theorem fresh_of_issue (h : timed.request = .issue)
    (hm : (challenge, issuedAt) ∈ (serve store timed).2.issued) :
    timed.time - issuedAt ≤ store.timeout := by
  unfold serve handle at hm
  rw [h] at hm
  obtain he | ⟨hm, _⟩ := mem_insert.1 hm
  · cases he
    rw [Int.sub_self]
    exact Int.natCast_nonneg store.timeout
  · exact (mem_prune.1 hm).2

/-- A challenge that was named and not handed out since cannot be used. -/
theorem not_usable_of_named {before between : List TimedRequest} {timeout : Nat}
    (hnamed : timed.request = .consume challenge)
    (hsince : ∀ other ∈ between, other.request = .issue → other.fresh ≠ challenge) :
    ¬ Usable timeout (before ++ timed :: between) now challenge := by
  intro hu
  obtain ⟨issuedAt, ⟨found, hl, hissue, _⟩, _⟩ := hu
  have hchallenge : timed.challenge = challenge := by
    rw [TimedRequest.challenge, hnamed]
  have hreverse : (before ++ timed :: between).reverse = between.reverse ++ timed :: before.reverse := by
    simp
  rw [latest?, hreverse, List.find?_append] at hl
  -- the latest request about the challenge is one of the later ones, or the one that named it
  cases hb : between.reverse.find? fun other => other.challenge = challenge with
  | some other =>
    rw [hb] at hl
    cases hl
    have hmem : found ∈ between := List.mem_reverse.1 (List.mem_of_find?_eq_some hb)
    have hfound : found.challenge = challenge := by simpa using List.find?_some hb
    rw [TimedRequest.challenge, hissue] at hfound
    exact hsince found hmem hissue hfound
  | none =>
    have hhead : (timed :: before.reverse).find? (fun other => other.challenge = challenge) = some timed :=
      List.find?_cons_of_pos (decide_eq_true hchallenge)
    rw [hb, Option.none_or, hhead] at hl
    cases hl
    rw [hnamed] at hissue
    cases hissue

/-- The answer to a consume request after a run. -/
theorem serve_consume_iff (timeoutSeconds : Nat) (hclock : Chronological (requests ++ [timed]))
    (hconsume : timed.request = .consume challenge) :
    ((serve (after serve (empty timeoutSeconds) requests) timed).1 = .consumed challenge ↔
      Usable (empty timeoutSeconds).timeout requests timed.time challenge) ∧
    ((serve (after serve (empty timeoutSeconds) requests) timed).1 = .rejected ↔
      ¬ Usable (empty timeoutSeconds).timeout requests timed.time challenge) := by
  obtain ⟨hbefore, hlast⟩ := chronological_append.1 hclock
  have hreflects := reflects_after faithful_serve timeoutSeconds hbefore hlast
  rw [faithful_serve.consumed _ _ _ hconsume,
    ← timeout_after faithful_serve (empty timeoutSeconds) requests]
  exact ⟨hreflects.consumed_iff, hreflects.rejected_iff⟩

/-- Right after a challenge was handed out, the store holds what would be handed back at this time. -/
theorem circulates_after_issue_iff (timeoutSeconds : Nat) (hclock : Chronological (requests ++ [timed]))
    (hissue : timed.request = .issue) :
    (after serve (empty timeoutSeconds) (requests ++ [timed])).circulates challenge = true ↔
      (serve (after serve (empty timeoutSeconds) (requests ++ [timed]))
        ⟨timed.time, timed.fresh, .consume challenge⟩).1 = .consumed challenge := by
  have hnow : ∀ earlier ∈ requests ++ [timed], earlier.time ≤ timed.time := by
    intro earlier he
    obtain he | he := List.mem_append.1 he
    · exact (chronological_append.1 hclock).2 earlier he
    · exact Int.le_of_eq (congrArg TimedRequest.time (List.mem_singleton.1 he))
  have hreflects := reflects_after faithful_serve timeoutSeconds hclock hnow
  rw [faithful_serve.consumed _ _ challenge rfl, hreflects.consumed_iff]
  constructor
  · intro hcirculates
    obtain ⟨issuedAt, hm⟩ := circulates_iff.1 hcirculates
    refine ⟨issuedAt, hreflects.sound _ _ hm, ?_⟩
    rw [after_append] at hm ⊢
    rw [faithful_serve.timeout]
    exact fresh_of_issue hissue hm
  · intro hu
    obtain ⟨issuedAt, hi, hle⟩ := hu
    exact circulates_iff.2 ⟨issuedAt, hreflects.complete _ _ hi hle⟩

/-- A consume request is answered by handing the challenge back if the latest earlier request about the challenge handed
it out, within the timeout, and is rejected otherwise. So dropping expired challenges changes no answer; a challenge that
was asked for is rejected until it is handed out again; and right after a challenge is handed out, the store holds those
that would be handed back. -/
theorem answers_follow_history (timeoutSeconds : Nat) (requests : List TimedRequest)
    (hclock : Chronological requests) :
    (∀ before timed later challenge, requests = before ++ timed :: later →
      timed.request = .consume challenge →
        ((serve (after serve (empty timeoutSeconds) before) timed).1 = .consumed challenge ↔
          Usable (empty timeoutSeconds).timeout before timed.time challenge) ∧
        ((serve (after serve (empty timeoutSeconds) before) timed).1 = .rejected ↔
          ¬ Usable (empty timeoutSeconds).timeout before timed.time challenge)) ∧
    responses serve (empty timeoutSeconds) requests =
      responses serveUnpruned (empty timeoutSeconds) requests ∧
    (∀ before first between second later challenge,
      requests = before ++ first :: between ++ second :: later →
      first.request = .consume challenge → second.request = .consume challenge →
      (∀ timed ∈ between, timed.request = .issue → timed.fresh ≠ challenge) →
        (serve (after serve (empty timeoutSeconds) (before ++ first :: between)) second).1 = .rejected) ∧
    (∀ before timed later, requests = before ++ timed :: later → timed.request = .issue →
      ∀ challenge,
        (after serve (empty timeoutSeconds) (before ++ [timed])).circulates challenge = true ↔
          (serve (after serve (empty timeoutSeconds) (before ++ [timed]))
            ⟨timed.time, timed.fresh, .consume challenge⟩).1 = .consumed challenge) := by
  have hsplit : ∀ before timed later, requests = before ++ timed :: later →
      Chronological (before ++ [timed]) := by
    intro before timed later hs
    have hprefix : requests = (before ++ [timed]) ++ later := by simp [hs]
    rw [Chronological, hprefix, List.pairwise_append] at hclock
    exact hclock.1
  refine ⟨?_, responses_eq faithful_serve faithful_serveUnpruned timeoutSeconds hclock, ?_, ?_⟩
  · intro before timed later challenge hs hr
    exact serve_consume_iff timeoutSeconds (hsplit before timed later hs) hr
  · intro before first between second later challenge hs hfirst hsecond hsince
    refine (serve_consume_iff timeoutSeconds (hsplit _ second later hs) hsecond).2.2 ?_
    exact not_usable_of_named hfirst hsince
  · intro before timed later hs hissue challenge
    exact circulates_after_issue_iff timeoutSeconds (hsplit before timed later hs) hissue

/-! ### A run -/

/-- The challenge of sixteen equal bytes. -/
def sampleChallenge (byte : UInt8) : Challenge :=
  ⟨List.replicate 16 byte, Nat.le_of_eq List.length_replicate.symm⟩

/-- A challenge expires unused, another one is handed out, and both are asked for, the second one at the last moment. -/
def sampleRequests : List TimedRequest :=
  [⟨0, sampleChallenge 1, .issue⟩, ⟨400000000000, sampleChallenge 2, .issue⟩,
    ⟨500000000000, sampleChallenge 3, .consume (sampleChallenge 1)⟩,
    ⟨700000000000, sampleChallenge 3, .consume (sampleChallenge 2)⟩]

/-- The first challenge is rejected and the second one is handed back, as it is if nothing is dropped. -/
theorem sample_answers :
    Chronological sampleRequests ∧
      (serve (after serve (empty 300) (sampleRequests.take 2))
        ⟨500000000000, sampleChallenge 3, .consume (sampleChallenge 1)⟩).1 = .rejected ∧
      (serve (after serve (empty 300) (sampleRequests.take 3))
        ⟨700000000000, sampleChallenge 3, .consume (sampleChallenge 2)⟩).1 =
          .consumed (sampleChallenge 2) ∧
      responses serve (empty 300) sampleRequests = responses serveUnpruned (empty 300) sampleRequests := by
  have hclock : Chronological sampleRequests := by
    simp [Chronological, sampleRequests]
  obtain ⟨hanswer, hunpruned, _⟩ := answers_follow_history 300 sampleRequests hclock
  refine ⟨hclock, ?_, ?_, hunpruned⟩
  · refine (hanswer (sampleRequests.take 2) _ _ (sampleChallenge 1) rfl rfl).2.2 fun hu => ?_
    obtain ⟨issuedAt, ⟨timed, hl, _, ht⟩, hle⟩ := hu
    cases hl
    subst ht
    exact absurd hle (by decide)
  · refine (hanswer (sampleRequests.take 3) _ _ (sampleChallenge 2) rfl rfl).1.2 ?_
    exact ⟨400000000000, ⟨_, rfl, rfl, rfl⟩, by decide⟩

end WebAuthn.ChallengeStore
