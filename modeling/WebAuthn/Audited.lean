import WebAuthn.Failure

/-!
# Checks that keep a log

A check ends in a value or in the failure of its first failing step, and leaves behind the lines that its
steps wrote, in order.

* `LogEntry` — a line and its level;
* `Audited` — a result with its log, and the monad that runs steps in order;
* `Audited.outcome_bind`, `Audited.log_bind` — what running two steps in order amounts to. The outcome of a
  composite never depends on the log.
-/

namespace WebAuthn

inductive Level where
  | error
  | warn
  | info
  | debug
  deriving DecidableEq, Repr

structure LogEntry where
  level : Level
  text : String
  deriving DecidableEq, Repr

/-- The result of a check and the lines that it wrote. -/
structure Audited (α : Type) where
  outcome : Except Failure α
  log : List LogEntry

namespace Audited

variable {α β : Type}

protected def pure (a : α) : Audited α :=
  ⟨.ok a, []⟩

/-- Runs a step and, if it succeeds, the next one; the lines of both stand in order. -/
protected def bind (x : Audited α) (next : α → Audited β) : Audited β :=
  match x.outcome with
  | .ok a => ⟨(next a).outcome, x.log ++ (next a).log⟩
  | .error failure => ⟨.error failure, x.log⟩

instance : Monad Audited where
  pure := Audited.pure
  bind := Audited.bind

/-- Fails and writes nothing. -/
def refuse (failure : Failure) : Audited α :=
  ⟨.error failure, []⟩

def note (level : Level) (text : String) : Audited Unit :=
  ⟨.ok (), [⟨level, text⟩]⟩

/-- Writes a line and fails. -/
def refuseWith (failure : Failure) (level : Level) (text : String) : Audited α :=
  ⟨.error failure, [⟨level, text⟩]⟩

/-- Fails unless the condition holds; writes nothing. -/
def require (condition : Bool) (failure : Failure) : Audited Unit :=
  if condition then pure () else refuse failure

/-- Adds lines after those of a failing check. -/
def onFailure (x : Audited α) (lines : Failure → List LogEntry) : Audited α :=
  match x.outcome with
  | .ok _ => x
  | .error failure => ⟨.error failure, x.log ++ lines failure⟩

/-- Puts another failure in place of the one that a check ends in. -/
def failingWith (x : Audited α) (failure : Failure) : Audited α :=
  match x.outcome with
  | .ok _ => x
  | .error _ => ⟨.error failure, x.log⟩

/-! ### Running steps in order -/

@[simp] theorem outcome_pure (a : α) : (pure a : Audited α).outcome = .ok a := rfl

@[simp] theorem log_pure (a : α) : (pure a : Audited α).log = [] := rfl

@[simp] theorem outcome_refuse (failure : Failure) :
    (refuse failure : Audited α).outcome = .error failure := rfl

@[simp] theorem outcome_refuseWith (failure : Failure) (level : Level) (text : String) :
    (refuseWith failure level text : Audited α).outcome = .error failure := rfl

@[simp] theorem outcome_note (level : Level) (text : String) :
    (note level text).outcome = .ok () := rfl

/-- The outcome of two steps is that of the second after a success and that of the first otherwise. -/
@[simp] theorem outcome_bind (x : Audited α) (next : α → Audited β) :
    (x >>= next).outcome = x.outcome >>= fun a => (next a).outcome := by
  show (Audited.bind x next).outcome = Except.bind x.outcome _
  unfold Audited.bind Except.bind
  cases x.outcome <;> rfl

/-- The lines of two steps. -/
theorem log_bind (x : Audited α) (next : α → Audited β) :
    (x >>= next).log = x.log ++ (match x.outcome with
      | .ok a => (next a).log
      | .error _ => []) := by
  show (Audited.bind x next).log = _
  unfold Audited.bind
  cases x.outcome <;> simp

instance : LawfulMonad Audited := LawfulMonad.mk' Audited
  (fun x => by
    obtain ⟨outcome, log⟩ := x
    cases outcome <;> simp [Functor.map, Audited.bind, Audited.pure])
  (fun a f => by simp [bind, Audited.bind, pure, Audited.pure])
  (fun x f g => by
    obtain ⟨outcome, log⟩ := x
    cases outcome with
    | error e => simp [bind, Audited.bind]
    | ok a =>
      simp only [bind, Audited.bind]
      cases (f a).outcome <;> simp [List.append_assoc])

end Audited

end WebAuthn
