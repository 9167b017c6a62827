import WebAuthn.Store.Challenges

/-!
# What requests do to the challenges in circulation

* `ChallengeStore.circulates` — a challenge was handed out and not taken back or dropped since;
* `circulates_of_prune`, `circulates_erase`, `circulates_insert` — what is in circulation after each operation;
* `circulates_of_consumed` — what is handed back was in circulation.
-/

namespace WebAuthn.ChallengeStore

variable {store : ChallengeStore} {challenge other : Challenge} {now : Instant}

/-- Whether a challenge is in circulation, fresh or not. -/
def circulates (store : ChallengeStore) (challenge : Challenge) : Bool :=
  (store.issuedAt? challenge).isSome

theorem circulates_iff :
    store.circulates challenge = true ↔ ∃ issuedAt, (challenge, issuedAt) ∈ store.issued := by
  unfold circulates issuedAt?
  rw [List.lookup_isSome_iff]
  constructor
  · intro h
    obtain ⟨⟨found, issuedAt⟩, he, hf⟩ := h
    rw [eq_of_beq hf]
    exact ⟨issuedAt, he⟩
  · intro h
    obtain ⟨issuedAt, he⟩ := h
    exact ⟨_, he, beq_self_eq_true challenge⟩

theorem circulates_of_prune (h : (store.prune now).circulates challenge = true) :
    store.circulates challenge = true := by
  obtain ⟨issuedAt, he⟩ := circulates_iff.1 h
  exact circulates_iff.2 ⟨issuedAt, (List.mem_filter.1 he).1⟩

theorem circulates_erase (h : (store.erase other).circulates challenge = true) :
    challenge ≠ other ∧ store.circulates challenge = true := by
  obtain ⟨issuedAt, he⟩ := circulates_iff.1 h
  obtain ⟨hm, hne⟩ := List.mem_filter.1 he
  exact ⟨of_decide_eq_true hne, circulates_iff.2 ⟨issuedAt, hm⟩⟩

theorem circulates_insert (h : (store.insert other now).circulates challenge = true) :
    challenge = other ∨ store.circulates challenge = true := by
  obtain ⟨issuedAt, he⟩ := circulates_iff.1 h
  obtain he | he := List.mem_cons.1 he
  · cases he
    exact .inl rfl
  · exact .inr (circulates_erase (circulates_iff.2 ⟨issuedAt, he⟩)).2

/-- Only what is in circulation is handed back, as it was asked for. -/
theorem circulates_of_consumed (h : (store.consumed now other).1 = .consumed challenge) :
    challenge = other ∧ store.circulates other = true := by
  unfold consumed at h
  unfold circulates
  split at h
  · cases h
  · next issuedAt hi =>
    rw [hi]
    split at h
    · cases h
      exact ⟨rfl, rfl⟩
    · cases h

end WebAuthn.ChallengeStore
