import WebAuthn.Audited

/-!
# Checks in order

What a ceremony accepts is said by a list of conditions, each with the failure that it stands for.

* `Check` — a condition and its failure; `Check.FirstFailure` — the failure of the first condition that does not hold;
* `Check.verdict` — the outcome of a list of checks: `verdict_eq_ok`, `verdict_eq_error`;
* `Audited.FailsOnlyWith` — steps that have one way to fail;
* `Audited.DecidedBy` — steps that a list of checks decides, and `DecidedBy.bind`, which runs two of them in order.

Conditions are propositions about the input, so that a list of checks says nothing about how they are carried out.
-/

namespace WebAuthn

/-! ### Outcomes -/

namespace Audited

variable {α β : Type}

theorem outcome_bind_ok {x : Audited α} {f : α → Audited β} {b : β} :
    (x >>= f).outcome = .ok b ↔ ∃ a, x.outcome = .ok a ∧ (f a).outcome = .ok b := by
  rw [outcome_bind]
  cases x.outcome <;> simp [bind, Except.bind]

theorem outcome_bind_of_ok {x : Audited α} {a : α} (h : x.outcome = .ok a) (f : α → Audited β) :
    (x >>= f).outcome = (f a).outcome := by
  rw [outcome_bind, h]
  rfl

/-- A success is one that can be told by running the check. -/
theorem toOption_outcome_iff {x : Audited α} {a : α} :
    x.outcome.toOption = some a ↔ x.outcome = .ok a := by
  cases x.outcome with
  | ok found => exact ⟨fun h => congrArg Except.ok (Option.some.inj h), fun h => congrArg some (Except.ok.inj h)⟩
  | error failure => exact ⟨nofun, nofun⟩

@[simp] theorem outcome_onFailure (x : Audited α) (lines : Failure → List LogEntry) :
    (x.onFailure lines).outcome = x.outcome := by
  unfold onFailure
  cases h : x.outcome <;> simp [h]

theorem outcome_failingWith_ok {x : Audited α} {failure : Failure} {a : α} :
    (x.failingWith failure).outcome = .ok a ↔ x.outcome = .ok a := by
  unfold failingWith
  cases h : x.outcome <;> simp [h]

/-- Every failure of the check is the given one. -/
def FailsOnlyWith (failure : Failure) (x : Audited α) : Prop :=
  ∀ e, x.outcome = .error e → e = failure

variable {failure : Failure}

theorem failsOnlyWith_pure (a : α) : FailsOnlyWith failure (pure a : Audited α) := by
  intro e h
  cases h

theorem failsOnlyWith_refuseWith (level : Level) (text : String) :
    FailsOnlyWith failure (refuseWith failure level text : Audited α) := by
  intro e h
  cases h
  rfl

theorem failsOnlyWith_refuse : FailsOnlyWith failure (refuse failure : Audited α) := by
  intro e h
  cases h
  rfl

theorem failsOnlyWith_failingWith (x : Audited α) : FailsOnlyWith failure (x.failingWith failure) := by
  intro e h
  unfold failingWith at h
  cases ho : x.outcome with
  | ok a =>
    rw [ho] at h
    exact absurd (ho.symm.trans h) (by simp)
  | error d =>
    rw [ho] at h
    cases h
    rfl

theorem failsOnlyWith_note (level : Level) (text : String) :
    FailsOnlyWith failure (note level text) := by
  intro e h
  cases h

theorem FailsOnlyWith.bind {x : Audited α} {f : α → Audited β} (hx : FailsOnlyWith failure x)
    (hf : ∀ a, FailsOnlyWith failure (f a)) : FailsOnlyWith failure (x >>= f) := by
  intro e h
  rw [outcome_bind] at h
  cases ho : x.outcome with
  | error d =>
    rw [ho] at h
    cases h
    exact hx e ho
  | ok a =>
    rw [ho] at h
    exact hf a e h

theorem FailsOnlyWith.map {x : Audited α} (hx : FailsOnlyWith failure x) (f : α → β) :
    FailsOnlyWith failure (f <$> x) := by
  rw [map_eq_pure_bind]
  exact hx.bind fun a => failsOnlyWith_pure (f a)

theorem FailsOnlyWith.onFailure {x : Audited α} (hx : x.FailsOnlyWith failure)
    (lines : Failure → List LogEntry) : (x.onFailure lines).FailsOnlyWith failure := by
  intro e h
  rw [outcome_onFailure] at h
  exact hx e h

/-- A check with one way to fail either succeeds or fails that way. -/
theorem FailsOnlyWith.outcome_eq {x : Audited α} (hx : FailsOnlyWith failure x) :
    (∃ a, x.outcome = .ok a) ∨ x.outcome = .error failure := by
  cases h : x.outcome with
  | ok a => exact .inl ⟨a, rfl⟩
  | error e => exact .inr (by rw [hx e h])

/-- Two checks with the same way to fail come to the same if they accept the same. -/
theorem FailsOnlyWith.outcome_congr {x y : Audited α} (hx : FailsOnlyWith failure x)
    (hy : FailsOnlyWith failure y) (h : ∀ a, x.outcome = .ok a ↔ y.outcome = .ok a) :
    x.outcome = y.outcome := by
  obtain ⟨a, ha⟩ | hfails := hx.outcome_eq
  · exact ha.trans ((h a).1 ha).symm
  · obtain ⟨a, ha⟩ | hother := hy.outcome_eq
    · exact ((h a).2 ha).trans ha.symm
    · exact hfails.trans hother.symm

end Audited

/-! ### Lists of checks -/

/-- A condition and the failure that it stands for. -/
structure Check where
  holds : Prop
  failure : Failure

namespace Check

/-- The failure of the first check of a list that does not hold. -/
inductive FirstFailure : List Check → Failure → Prop where
  | here {check : Check} {rest : List Check} : ¬ check.holds →
      FirstFailure (check :: rest) check.failure
  | later {check : Check} {rest : List Check} {failure : Failure} : check.holds →
      FirstFailure rest failure → FirstFailure (check :: rest) failure

open Classical in
/-- The outcome of checks that are made in order. -/
noncomputable def verdict : List Check → Except Failure Unit
  | [] => .ok ()
  | check :: rest => if check.holds then verdict rest else .error check.failure

theorem verdict_cons_of {check : Check} (rest : List Check) (h : check.holds) :
    verdict (check :: rest) = verdict rest := by
  rw [verdict, if_pos h]

theorem verdict_cons_of_not {check : Check} (rest : List Check) (h : ¬ check.holds) :
    verdict (check :: rest) = .error check.failure := by
  rw [verdict, if_neg h]

/-- The checks pass if all conditions hold. -/
theorem verdict_eq_ok {checks : List Check} :
    verdict checks = .ok () ↔ ∀ check ∈ checks, check.holds := by
  induction checks with
  | nil => simp [verdict]
  | cons check rest ih =>
    by_cases h : check.holds
    · rw [verdict_cons_of rest h, ih]
      simp [h]
    · rw [verdict_cons_of_not rest h]
      simp [h]

/-- Otherwise the first condition that does not hold decides. -/
theorem verdict_eq_error {checks : List Check} {failure : Failure} :
    verdict checks = .error failure ↔ FirstFailure checks failure := by
  induction checks with
  | nil =>
    constructor
    · intro h
      cases h
    · intro h
      cases h
  | cons check rest ih =>
    by_cases h : check.holds
    · rw [verdict_cons_of rest h, ih]
      constructor
      · exact .later h
      · intro hf
        cases hf with
        | here hn => exact absurd h hn
        | later _ hf => exact hf
    · rw [verdict_cons_of_not rest h]
      constructor
      · intro hf
        cases hf
        exact .here h
      · intro hf
        cases hf with
        | here => rfl
        | later hh _ => exact absurd hh h

theorem verdict_append (checks more : List Check) :
    verdict (checks ++ more) = verdict checks >>= fun _ => verdict more := by
  induction checks with
  | nil => rfl
  | cons check rest ih =>
    by_cases h : check.holds
    · rw [List.cons_append, verdict_cons_of _ h, verdict_cons_of _ h, ih]
    · rw [List.cons_append, verdict_cons_of_not _ h, verdict_cons_of_not _ h]
      rfl

end Check

/-! ### Steps that are decided by checks -/

namespace Audited

open Check

/-- The step has the outcome if all checks hold, else it ends in the first failure. -/
def DecidedBy (x : Audited α) (checks : List Check) (outcome : Except Failure α) : Prop :=
  x.outcome = verdict checks >>= fun _ => outcome

variable {x : Audited α} {f : α → Audited β} {checks more : List Check} {a : α}
  {outcome : Except Failure α} {later : Except Failure β}

/-- Without checks a step has its own outcome. -/
theorem decidedBy_nil (x : Audited α) : x.DecidedBy [] x.outcome :=
  rfl

theorem DecidedBy.bind (hx : x.DecidedBy checks (.ok a)) (hf : (f a).DecidedBy more later) :
    (x >>= f).DecidedBy (checks ++ more) later := by
  unfold DecidedBy at *
  rw [outcome_bind, hx, verdict_append]
  cases verdict checks with
  | error e => rfl
  | ok _ => exact hf

/-- A step with one check in front of others. -/
theorem DecidedBy.bind_cons {check : Check} (hx : x.DecidedBy [check] (.ok a))
    (hf : (f a).DecidedBy more later) : (x >>= f).DecidedBy (check :: more) later :=
  hx.bind hf

/-- A test of a condition is decided by that one check. -/
theorem decidedBy_of_iff {condition holds : Prop} [Decidable condition] {failure : Failure}
    (hx : x.outcome = if condition then .ok a else .error failure) (h : condition ↔ holds) :
    x.DecidedBy [⟨holds, failure⟩] (.ok a) := by
  unfold DecidedBy
  by_cases hc : condition
  · rw [hx, if_pos hc, verdict_cons_of _ (h.1 hc)]
    rfl
  · rw [hx, if_neg hc, verdict_cons_of_not _ fun hh => hc (h.2 hh)]
    rfl

theorem decidedBy_require {condition : Bool} {holds : Prop} {failure : Failure}
    (h : condition = true ↔ holds) :
    (require condition failure).DecidedBy [⟨holds, failure⟩] (.ok ()) := by
  refine decidedBy_of_iff ?_ h
  cases condition <;> rfl

/-- A step with one way to fail, in front of steps that depend on what it found. -/
theorem FailsOnlyWith.decidedBy_bind {failure : Failure} (hx : x.FailsOnlyWith failure)
    {holds : Prop} (h : holds ↔ ∃ a, x.outcome = .ok a)
    (hf : ∀ a, x.outcome = .ok a → (f a).DecidedBy checks later) :
    (x >>= f).DecidedBy (⟨holds, failure⟩ :: checks) later := by
  unfold DecidedBy
  rw [outcome_bind]
  obtain ⟨a, ha⟩ | he := hx.outcome_eq
  · rw [ha, verdict_cons_of _ (h.2 ⟨a, ha⟩)]
    exact hf a ha
  · have hn : ¬ holds := fun hh => by
      obtain ⟨a, ha⟩ := h.1 hh
      rw [he] at ha
      cases ha
    rw [he, verdict_cons_of_not _ hn]
    rfl

/-- A step with one way to fail is decided by the one condition for its success. -/
theorem FailsOnlyWith.decidedBy {x : Audited Unit} {failure : Failure}
    (hx : x.FailsOnlyWith failure) {holds : Prop} (h : holds ↔ x.outcome = .ok ()) :
    x.DecidedBy [⟨holds, failure⟩] (.ok ()) := by
  have hb : (x >>= pure).DecidedBy [⟨holds, failure⟩] (.ok ()) :=
    hx.decidedBy_bind (h.trans ⟨fun ho => ⟨(), ho⟩, fun ⟨_, ho⟩ => ho⟩)
      fun () _ => decidedBy_nil (pure ())
  rwa [bind_pure] at hb

/-- A check that holds decides nothing. -/
theorem DecidedBy.of_cons {check : Check} (h : x.DecidedBy (check :: more) outcome)
    (hc : check.holds) : x.DecidedBy more outcome := by
  unfold DecidedBy at *
  rw [h, verdict_cons_of more hc]

theorem DecidedBy.of_append (h : x.DecidedBy (checks ++ more) outcome)
    (hall : ∀ check ∈ checks, check.holds) : x.DecidedBy more outcome := by
  induction checks with
  | nil => exact h
  | cons check rest ih =>
    obtain ⟨hc, hrest⟩ := List.forall_mem_cons.1 hall
    exact ih (h.of_cons hc) hrest

theorem DecidedBy.outcome_ok_iff (h : x.DecidedBy checks outcome) :
    x.outcome = .ok a ↔ (∀ check ∈ checks, check.holds) ∧ outcome = .ok a := by
  rw [← verdict_eq_ok, show x.outcome = _ from h]
  cases verdict checks with
  | ok _ =>
    show outcome = .ok a ↔ _
    simp
  | error e =>
    show Except.error e = .ok a ↔ _
    simp

theorem DecidedBy.outcome_error_iff {failure : Failure} (h : x.DecidedBy checks outcome) :
    x.outcome = .error failure ↔
      FirstFailure checks failure ∨
        (∀ check ∈ checks, check.holds) ∧ outcome = .error failure := by
  rw [← verdict_eq_error, ← verdict_eq_ok, show x.outcome = _ from h]
  cases verdict checks with
  | ok _ =>
    show outcome = .error failure ↔ _
    simp
  | error e =>
    show Except.error e = .error failure ↔ _
    simp

end Audited

end WebAuthn
