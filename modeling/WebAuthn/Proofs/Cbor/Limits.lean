import WebAuthn.Proofs.Cbor.Recognition

/-!
# CBOR under other limits

Limits do not take part in what an input means. Under stricter limits an input is read as under looser ones or refused
for a limit, also where the looser reader fails further on; it is never read as something else, nor refused for another
reason.

* `Reader.Tightens` — a reader does what another one does, or refuses for a limit; kept by every step of the reader;
* `decode_tightens` — reading under stricter limits does what reading under looser ones does, or refuses;
* `limits_only_refuse` — the same, and what it says about accepted inputs when limits are raised or lowered.
-/

namespace WebAuthn.Cbor

variable {strict loose : Limits}

/-! ### Readers -/

namespace Reader

variable {α β : Type}

/-- The reader does the same as the other one, or it refuses because of the limits. -/
def Tightens (limits : Limits) (r s : Reader α) : Prop :=
  ∀ cursor, r cursor = s cursor ∨ ∃ error, limits.Refuses error ∧ (r cursor).1 = .error error

theorem Tightens.refl (r : Reader α) : r.Tightens strict r :=
  fun _ => .inl rfl

theorem Tightens.bind {r s : Reader α} {next other : α → Reader β} (h : Tightens strict r s)
    (hn : ∀ a, Tightens strict (next a) (other a)) :
    Tightens strict (r >>= next) (s >>= other) := by
  intro cursor
  have hr := h cursor
  rcases hcursor : r cursor with ⟨result, stop⟩
  rw [hcursor] at hr
  cases result with
  | error e =>
    rw [bind_of_error hcursor]
    obtain hsame | ⟨error, hlimit, herror⟩ := hr
    · exact .inl (bind_of_error hsame.symm).symm
    · exact .inr ⟨error, hlimit, congrArg Except.error (Except.error.inj herror)⟩
  | ok a =>
    rw [bind_of_ok hcursor]
    obtain hsame | ⟨error, _, herror⟩ := hr
    · rw [bind_of_ok hsame.symm]
      exact hn a stop
    · cases herror

/-- Every step of the reader of data items is the same step or a refusal. -/
theorem lockstep_tightens (limits : Limits) : Lockstep limits (Tightens limits) where
  pure _ := .refl _
  fail _ := .refl _
  position := .refl _
  takeByte := .refl _
  take _ := .refl _
  require _ := .refl _
  bind := Tightens.bind
  refuse _ hlimit := fun _ => .inr ⟨_, hlimit, rfl⟩

end Reader

open Reader

/-! ### Whole inputs -/

variable {input : Bytes}

theorem tightens_item (h : strict ≤ loose) :
    Tightens strict (item strict strict.maxDepth) (item loose loose.maxDepth) :=
  (lockstep_tightens strict).item h h.2.1

/-- Reading under stricter limits does what reading under looser ones does, or refuses for a limit. -/
theorem decode_tightens (h : strict ≤ loose) (input : Bytes) :
    decode strict input = decode loose input ∨
      ∃ error, strict.Refuses error ∧ decode strict input = .error error := by
  by_cases hlong : strict.maxLength < input.length
  · refine .inr ⟨_, .tooLong hlong, ?_⟩
    rw [decode, Decoder.start, if_pos hlong]
    rfl
  · have hstrict : input.length ≤ strict.maxLength := Nat.le_of_not_lt hlong
    have hloose : input.length ≤ loose.maxLength := Nat.le_trans hstrict h.1
    rw [decode_eq hstrict, decode_eq hloose]
    obtain hsame | ⟨error, hlimit, herror⟩ := tightens_item h ⟨input, 0⟩
    · rw [hsame]
      exact .inl rfl
    · rw [herror]
      exact .inr ⟨error, hlimit, rfl⟩

/-- Limits only refuse. Under stricter limits the result is the same, value or error with its offset, or it is the error
of an exceeded limit; so what is accepted stays accepted as the same value when limits are raised, and when they are
lowered it is accepted as the same value or refused for a limit. -/
theorem limits_only_refuse (h : strict ≤ loose) (input : Bytes) :
    (decode strict input = decode loose input ∨
      ∃ error, strict.Refuses error ∧ decode strict input = .error error) ∧
    (∀ value, decode strict input = .ok value → decode loose input = .ok value) ∧
    ∀ value, decode loose input = .ok value →
      decode strict input = .ok value ∨
        ∃ error, strict.Refuses error ∧ decode strict input = .error error := by
  have htightens := decode_tightens h input
  refine ⟨htightens, fun value hvalue => ?_, fun value hvalue => ?_⟩
  · obtain hsame | ⟨error, _, herror⟩ := htightens
    · exact hsame.symm.trans hvalue
    · cases herror.symm.trans hvalue
  · exact htightens.imp_left fun hsame => hsame.trans hvalue

/-- A map with a key twice: fewer entries are refused for their number, before the key is looked at. -/
theorem sample_limit_refuses :
    (⟨8, 2, 1⟩ : Limits) ≤ {} ∧
      decode {} [0xa2, 0x01, 0x02, 0x01, 0x02] = .error (.duplicateKey 3) ∧
      ∃ error, (⟨8, 2, 1⟩ : Limits).Refuses error ∧
        decode ⟨8, 2, 1⟩ [0xa2, 0x01, 0x02, 0x01, 0x02] = .error error := by
  have hle : (⟨8, 2, 1⟩ : Limits) ≤ {} := ⟨by decide, by decide, by decide⟩
  have hloose : decode {} [0xa2, 0x01, 0x02, 0x01, 0x02] = .error (.duplicateKey 3) := rfl
  have hstrict : decode ⟨8, 2, 1⟩ [0xa2, 0x01, 0x02, 0x01, 0x02] = .error (.tooManyEntries 2 1 0) := rfl
  refine ⟨hle, hloose, ?_⟩
  obtain hsame | hrefused := (limits_only_refuse hle [0xa2, 0x01, 0x02, 0x01, 0x02]).1
  · cases hstrict.symm.trans (hsame.trans hloose)
  · exact hrefused

end WebAuthn.Cbor
