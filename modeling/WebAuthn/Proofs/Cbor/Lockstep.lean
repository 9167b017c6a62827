import WebAuthn.Cbor.Decoder

/-!
# Two runs of the CBOR reader side by side

Limits stand in few places of the reader of data items, and each of them is a refusal. Under two limits the reader makes
the same steps, then, up to the first refusal of the stricter ones.

* `Limits.Refuses`, `Limits.instLE` — the errors that name an exceeded limit, and limits none of which is larger;
* `Reader.Lockstep` — a relation between readers that every step of the reader of data items keeps;
* `Reader.Lockstep.item` — such a relation holds between the readers of data items under two limits, by induction on
  the levels. A property of one reader is such a relation too, for equal limits.
-/

namespace WebAuthn.Cbor

/-! ### Limits -/

/-- The error says that one of the limits is exceeded, and by what. -/
inductive Limits.Refuses (limits : Limits) : Error → Prop where
  | tooLong {length : Nat} :
      limits.maxLength < length → limits.Refuses (.tooLong length limits.maxLength)
  | tooDeep : limits.Refuses (.tooDeep limits.maxDepth)
  | tooManyEntries {count offset : Nat} :
      limits.maxMapEntries < count →
      limits.Refuses (.tooManyEntries count limits.maxMapEntries offset)

/-- Limits are ordered one by one. -/
instance Limits.instLE : LE Limits where
  le strict loose := strict.maxLength ≤ loose.maxLength ∧ strict.maxDepth ≤ loose.maxDepth ∧
    strict.maxMapEntries ≤ loose.maxMapEntries

theorem Limits.le_refl (limits : Limits) : limits ≤ limits :=
  ⟨Nat.le_refl _, Nat.le_refl _, Nat.le_refl _⟩

/-! ### Steps -/

namespace Reader

/-- The relation is kept by every step that the reader of data items is made of. A reader that refuses because of the
limits is related to any other one. -/
structure Lockstep (limits : Limits) (R : {α : Type} → Reader α → Reader α → Prop) : Prop where
  pure : ∀ {α : Type} (a : α), R (pure a) (pure a)
  fail : ∀ {α : Type} (error : Error), R (fail error : Reader α) (fail error)
  position : R position position
  takeByte : R takeByte takeByte
  take : ∀ count, R (take count) (take count)
  require : ∀ count, R (require count) (require count)
  bind : ∀ {α β : Type} {r s : Reader α} {next other : α → Reader β},
    R r s → (∀ a, R (next a) (other a)) → R (r >>= next) (s >>= other)
  refuse : ∀ {α : Type} {error : Error} (s : Reader α), limits.Refuses error → R (Reader.fail error) s

namespace Lockstep

variable {strict loose : Limits} {R : {α : Type} → Reader α → Reader α → Prop} {α β : Type}

theorem map (h : Lockstep strict R) {r s : Reader α} (hrs : R r s) (f : α → β) :
    R (f <$> r) (f <$> s) :=
  h.bind hrs fun a => h.pure (f a)

theorem simple (h : Lockstep strict R) (number offset : Nat) :
    R (simple number offset) (simple number offset) := by
  unfold Cbor.simple
  split
  · exact h.pure _
  · exact h.pure _
  · exact h.pure _
  · exact h.fail _

theorem argument (h : Lockstep strict R) (major info offset : Nat) :
    R (argument major info offset) (argument major info offset) := by
  unfold Cbor.argument
  split
  · exact h.map (h.take 1) _
  · exact h.map (h.take 2) _
  · exact h.map (h.take 4) _
  · exact h.map (h.take 8) _
  · exact h.fail _
  · split
    · exact h.pure _
    · exact h.fail _

/-! ### Items in items -/

variable {nested other : Reader Value}

theorem items (h : Lockstep strict R) (hn : R nested other) (count : Nat) (read : List Value) :
    R (items nested count read) (items other count read) := by
  induction count generalizing read with
  | zero => exact h.pure _
  | succ count ih => exact h.bind hn fun value => ih (value :: read)

theorem entries (h : Lockstep strict R) (hn : R nested other) (count : Nat)
    (read : List (Value × Value)) : R (entries nested count read) (entries other count read) := by
  induction count generalizing read with
  | zero => exact h.pure _
  | succ count ih =>
    refine h.bind h.position fun offset => h.bind hn fun key => ?_
    split
    · exact h.fail _
    · exact h.bind hn fun value => ih ((key, value) :: read)

theorem content (h : Lockstep strict R) (hle : strict ≤ loose) (hn : R nested other)
    (major argument offset : Nat) :
    R (content strict nested major argument offset) (content loose other major argument offset) := by
  unfold Cbor.content
  split
  · exact h.pure _
  · exact h.pure _
  · exact h.map (h.take _) _
  · refine h.bind (h.take _) fun bytes => ?_
    split
    · exact h.pure _
    · exact h.fail _
  · exact h.bind (h.require _) fun _ => h.map (h.items hn _ _) _
  · by_cases hmany : argument > strict.maxMapEntries
    · rw [if_pos hmany]
      exact h.refuse _ (.tooManyEntries hmany)
    · -- what is not too much under the strict limits is not too much under the loose ones
      have hentries : strict.maxMapEntries ≤ loose.maxMapEntries := hle.2.2
      have hfew : ¬ argument > loose.maxMapEntries := by omega
      rw [if_neg hmany, if_neg hfew]
      exact h.bind (h.require _) fun _ => h.map (h.entries hn _ _) _
  · exact h.map hn _

/-- The readers of data items under two limits make the same steps up to a refusal. -/
theorem item (h : Lockstep strict R) (hle : strict ≤ loose) {levels more : Nat} (hlevels : levels ≤ more) :
    R (item strict levels) (item loose more) := by
  induction levels generalizing more with
  | zero => exact h.refuse _ .tooDeep
  | succ levels ih =>
    obtain ⟨more, rfl⟩ : ∃ fewer, more = fewer + 1 := ⟨more - 1, by omega⟩
    refine h.bind h.position fun offset => h.bind h.takeByte fun head => ?_
    show R (if head.toNat / 32 = 7 then _ else _) (if head.toNat / 32 = 7 then _ else _)
    split
    · split
      · exact h.simple _ _
      · split
        · exact h.bind h.takeByte fun number => h.simple _ _
        · exact h.fail _
    · exact h.bind (h.argument _ _ _) fun argument =>
        h.content hle (ih (Nat.le_of_succ_le_succ hlevels)) _ _ _

end Lockstep

end Reader

end WebAuthn.Cbor
