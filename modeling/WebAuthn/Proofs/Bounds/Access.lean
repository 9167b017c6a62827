import WebAuthn.Audited
import WebAuthn.Bytes

/-!
# Accesses that may be out of range

A program in which an access out of range ends the run, and not in one of its errors, is told apart from one in which
it does not: such an access gives nothing.

* `Checked.slice?`, `suffix?`, `splitAt?`, `copy?`, `byteAt?`, `subtract?` — the accesses, each with when it is in range;
* `Checked.Guarded` — checks with accesses among their steps; `Guarded.bind_eq` and `Guarded.access_bind` say what a check
  amounts to whose accesses are in range.
-/

namespace WebAuthn.Checked

/-! ### Accesses -/

section Accesses

variable {bytes front back : Bytes} {start stop index : Nat}

/-- The bytes between two positions, which have to be in order and within the bytes. -/
def slice? (bytes : Bytes) (start stop : Nat) : Option Bytes :=
  if start ≤ stop ∧ stop ≤ bytes.length then some ((bytes.drop start).take (stop - start)) else none

/-- The bytes from a position on, which has to be within the bytes or at their end. -/
def suffix? (bytes : Bytes) (start : Nat) : Option Bytes :=
  slice? bytes start bytes.length

/-- The bytes before and behind a position, which has to be within the bytes or at their end. -/
def splitAt? (bytes : Bytes) (index : Nat) : Option (Bytes × Bytes) :=
  if index ≤ bytes.length then some (bytes.take index, bytes.drop index) else none

/-- The bytes, copied to room for `n` bytes; there have to be as many. -/
def copy? (n : Nat) (bytes : Bytes) : Option (FixedBytes n) :=
  FixedBytes.ofBytes? bytes

/-- The byte at a position, which has to be within the bytes. -/
def byteAt? (bytes : Bytes) (index : Nat) : Option UInt8 :=
  bytes[index]?

/-- The difference of two numbers, of which the second must not be the larger one. -/
def subtract? (a b : Nat) : Option Nat :=
  if b ≤ a then some (a - b) else none

theorem slice?_eq_some (h : start ≤ stop) (hs : stop ≤ bytes.length) :
    slice? bytes start stop = some ((bytes.drop start).take (stop - start)) :=
  if_pos ⟨h, hs⟩

theorem suffix?_eq_some (h : start ≤ bytes.length) : suffix? bytes start = some (bytes.drop start) := by
  have hlength : (bytes.drop start).length ≤ bytes.length - start := Nat.le_of_eq List.length_drop
  rw [suffix?, slice?_eq_some h (Nat.le_refl _), List.take_of_length_le hlength]

theorem splitAt?_append (h : front.length = index) :
    splitAt? (front ++ back) index = some (front, back) := by
  subst h
  rw [splitAt?, List.length_append, if_pos (Nat.le_add_right _ _), List.take_left, List.drop_left]

theorem copy?_bytes {n : Nat} (fixed : FixedBytes n) : copy? n fixed.bytes = some fixed :=
  FixedBytes.ofBytes?_eq_some.2 rfl

theorem subtract?_eq_some {a b : Nat} (h : b ≤ a) : subtract? a b = some (a - b) :=
  if_pos h

end Accesses

/-! ### Checks -/

/-- A check with accesses among its steps; nothing is left of it when one of them is out of range. -/
def Guarded (α : Type) : Type :=
  Option (Audited α)

namespace Guarded

variable {α β : Type}

def lift (x : Audited α) : Guarded α :=
  some x

def access (found : Option α) : Guarded α :=
  found.map pure

protected def bind (m : Guarded α) (next : α → Guarded β) : Guarded β :=
  match m with
  | none => none
  | some x =>
    match x.outcome with
    | .ok a => (next a).map fun y => ⟨y.outcome, x.log ++ y.log⟩
    | .error failure => some ⟨.error failure, x.log⟩

instance : Monad Guarded where
  pure a := lift (pure a)
  bind := Guarded.bind

variable {m : Guarded α} {x : Audited α} {next : α → Guarded β} {f : α → Audited β} {found : Option α} {a : α}

/-- Steps whose accesses are in range, in order. -/
theorem bind_eq (h : m = some x) (hn : ∀ a, x.outcome = .ok a → next a = some (f a)) :
    m >>= next = some (x >>= f) := by
  subst h
  obtain ⟨outcome, log⟩ := x
  cases outcome with
  | error failure => rfl
  | ok a =>
    show (next a).map _ = _
    rw [hn a rfl]
    rfl

theorem map_eq {g : α → β} (h : m = some x) : g <$> m = some (g <$> x) :=
  bind_eq h fun _ _ => rfl

/-- What follows two checks follows the second one. -/
theorem lift_bind_bind {γ : Type} (x : Audited α) (f : α → Audited β) (next : β → Guarded γ) :
    lift (x >>= f) >>= next = lift x >>= fun a => lift (f a) >>= next := by
  obtain ⟨outcome, front⟩ := x
  cases outcome with
  | error failure => rfl
  | ok a =>
    show Guarded.bind (some ⟨(f a).outcome, front ++ (f a).log⟩) next =
      (Guarded.bind (some (f a)) next).map fun y => ⟨y.outcome, front ++ y.log⟩
    unfold Guarded.bind
    rcases f a with ⟨outcome, back⟩
    cases outcome with
    | error failure => rfl
    | ok b =>
      have hlog : ∀ last : Option (Audited γ),
          last.map (fun y => (⟨y.outcome, front ++ back ++ y.log⟩ : Audited γ)) =
            (last.map fun y => (⟨y.outcome, back ++ y.log⟩ : Audited γ)).map fun y =>
              ⟨y.outcome, front ++ y.log⟩ := fun last => by
        rw [Option.map_map]
        simp only [Function.comp_def, List.append_assoc]
      exact hlog (next b)

/-- What follows an access that is in range. -/
theorem access_bind (h : found = some a) (next : α → Guarded β) : access found >>= next = next a := by
  subst h
  exact Option.map_id'

end Guarded

end WebAuthn.Checked
