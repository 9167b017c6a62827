import WebAuthn.Proofs.Cbor.Recognition

/-!
# Where a decoder stands, and where its errors show

A decoder is asked for one item after the other, also after refusals. A refusal may leave it in the middle of an item,
and the next one is read from there. It never goes back, though, and what a refusal says about the place of the fault
is within what was read in that call.

* `Error.offset?`, `Error.ShowsIn` — the offset of an error, and errors that show between two positions;
* `Reader.Locates` — where the errors of a reader show; one lemma for each step;
* `locates_item` — the errors of an item show between its first byte and where reading it stopped, by induction on the
  levels;
* `Decoder.advance` — the decoder after any number of calls; `positions_of_stream` says where it stands.
-/

namespace WebAuthn.Cbor

/-! ### Offsets of errors -/

namespace Error

/-- The offset where the error shows, if it has one. -/
def offset? : Error → Option Nat
  | .truncated offset => some offset
  | .indefiniteLength offset => some offset
  | .unsupported _ _ offset => some offset
  | .invalidUtf8 offset => some offset
  | .tooManyEntries _ _ offset => some offset
  | .duplicateKey offset => some offset
  | .tooLong _ _ => none
  | .tooDeep _ => none
  | .trailingBytes _ => none

/-- The error shows between two positions, and the end of the input at the later one. -/
structure ShowsIn (first last : Nat) (error : Error) : Prop where
  between : ∀ offset, error.offset? = some offset → first ≤ offset ∧ offset ≤ last
  atEnd : ∀ offset, error = .truncated offset → offset = last

variable {first earlier last : Nat} {error : Error}

theorem showsIn_truncated (h : first ≤ last) : (truncated last).ShowsIn first last where
  between _ ho := by
    cases ho
    exact ⟨h, Nat.le_refl last⟩
  atEnd _ ho := by
    cases ho
    rfl

/-- An error at the first position shows wherever reading stops. -/
theorem showsIn_of_first (h : first ≤ last) (ho : error.offset? = some first)
    (ht : ∀ offset, error ≠ .truncated offset) : error.ShowsIn first last where
  between offset hoffset := by
    cases ho.symm.trans hoffset
    exact ⟨Nat.le_refl first, h⟩
  atEnd offset he := absurd he (ht offset)

theorem ShowsIn.of_le (h : error.ShowsIn first last) (hle : earlier ≤ first) :
    error.ShowsIn earlier last where
  between offset ho := ⟨Nat.le_trans hle (h.between offset ho).1, (h.between offset ho).2⟩
  atEnd := h.atEnd

end Error

/-! ### Readers -/

namespace Reader

variable {α β : Type}

/-- From any position behind the first one, the reader does not go back, and its errors show between the first position
and where it stops. -/
def Locates (first : Nat) (r : Reader α) : Prop :=
  ∀ cursor, first ≤ cursor.position → cursor.position ≤ (r cursor).2.position ∧
    ∀ error, (r cursor).1 = .error error → error.ShowsIn first (r cursor).2.position

variable {first : Nat}

theorem locates_pure (a : α) : (pure a : Reader α).Locates first :=
  fun _ _ => ⟨Nat.le_refl _, nofun⟩

/-- A refusal for what stands at the first position. -/
theorem locates_fail {error : Error} (ho : error.offset? = some first)
    (ht : ∀ offset, error ≠ .truncated offset) : (fail error : Reader α).Locates first := by
  intro cursor h
  refine ⟨Nat.le_refl _, fun e he => ?_⟩
  cases he
  exact Error.showsIn_of_first h ho ht

theorem locates_tooDeep (limit : Nat) : (fail (.tooDeep limit) : Reader α).Locates first := by
  intro cursor _
  refine ⟨Nat.le_refl _, fun e he => ?_⟩
  cases he
  exact ⟨nofun, nofun⟩

theorem locates_takeByte : takeByte.Locates first := by
  intro cursor h
  obtain ⟨rest, position⟩ := cursor
  cases rest with
  | nil =>
    refine ⟨Nat.le_refl _, fun e he => ?_⟩
    cases he
    exact Error.showsIn_truncated h
  | cons b rest => exact ⟨Nat.le_succ _, nofun⟩

theorem locates_take (count : Nat) : (take count).Locates first := by
  intro cursor h
  unfold take
  split
  · exact ⟨Nat.le_add_right _ _, nofun⟩
  · refine ⟨Nat.le_refl _, fun e he => ?_⟩
    cases he
    exact Error.showsIn_truncated h

theorem locates_require (count : Nat) : (require count).Locates first := by
  intro cursor h
  unfold require
  split
  · exact ⟨Nat.le_refl _, nofun⟩
  · refine ⟨Nat.le_refl _, fun e he => ?_⟩
    cases he
    exact Error.showsIn_truncated h

theorem Locates.bind {r : Reader α} {next : α → Reader β} (h : r.Locates first)
    (hn : ∀ a, (next a).Locates first) : (r >>= next).Locates first := by
  intro cursor hfirst
  obtain ⟨hle, herror⟩ := h cursor hfirst
  rcases hcursor : r cursor with ⟨result, middle⟩
  rw [hcursor] at hle herror
  cases result with
  | error e =>
    rw [bind_of_error hcursor]
    refine ⟨hle, fun e' he => herror e' ?_⟩
    exact congrArg Except.error (Except.error.inj he)
  | ok a =>
    rw [bind_of_ok hcursor]
    obtain ⟨hle', herror'⟩ := hn a middle (Nat.le_trans hfirst hle)
    exact ⟨Nat.le_trans hle hle', herror'⟩

theorem Locates.map {r : Reader α} (h : r.Locates first) (f : α → β) : (f <$> r).Locates first :=
  h.bind fun a => locates_pure (f a)

/-- What is read from where the reader stands may take this position for the first one. -/
theorem locates_position_bind {next : Nat → Reader α} (h : ∀ offset, (next offset).Locates offset) :
    (position >>= next).Locates first := by
  intro cursor hfirst
  obtain ⟨hle, herror⟩ := h cursor.position cursor (Nat.le_refl _)
  exact ⟨hle, fun error he => (herror error he).of_le hfirst⟩

end Reader

open Reader

/-! ### Items -/

variable {limits : Limits} {input : Bytes} {decoder : Decoder}

theorem locates_simple (number offset : Nat) : (simple number offset).Locates offset := by
  unfold simple
  split
  · exact locates_pure _
  · exact locates_pure _
  · exact locates_pure _
  · exact locates_fail rfl nofun

theorem locates_argument (major info offset : Nat) : (argument major info offset).Locates offset := by
  unfold argument
  split
  · exact (locates_take 1).map _
  · exact (locates_take 2).map _
  · exact (locates_take 4).map _
  · exact (locates_take 8).map _
  · exact locates_fail rfl nofun
  · split
    · exact locates_pure _
    · exact locates_fail rfl nofun

section Contents

variable {nested : Reader Value}

theorem locates_items (h : ∀ offset, nested.Locates offset) (count : Nat) (read : List Value) (offset : Nat) :
    (items nested count read).Locates offset := by
  induction count generalizing read with
  | zero => exact locates_pure _
  | succ count ih => exact (h offset).bind fun value => ih (value :: read)

/-- A key that stands there already shows where it begins. -/
theorem locates_entries (h : ∀ offset, nested.Locates offset) (count : Nat) (read : List (Value × Value))
    (offset : Nat) : (entries nested count read).Locates offset := by
  induction count generalizing read offset with
  | zero => exact locates_pure _
  | succ count ih =>
    refine locates_position_bind fun start => (h start).bind fun key => ?_
    split
    · exact locates_fail rfl nofun
    · exact (h start).bind fun value => ih ((key, value) :: read) start

theorem locates_content (h : ∀ offset, nested.Locates offset) (major argument offset : Nat) :
    (content limits nested major argument offset).Locates offset := by
  unfold content
  split
  · exact locates_pure _
  · exact locates_pure _
  · exact (locates_take _).map _
  · refine (locates_take _).bind fun bytes => ?_
    split
    · exact locates_pure _
    · exact locates_fail rfl nofun
  · exact (locates_require _).bind fun _ => (locates_items h _ _ _).map _
  · split
    · exact locates_fail rfl nofun
    · exact (locates_require _).bind fun _ => (locates_entries h _ _ _).map _
  · exact (h offset).map _

end Contents

/-- The errors of an item show between its first byte and where reading it stopped. -/
theorem locates_item (limits : Limits) (levels first : Nat) : (item limits levels).Locates first := by
  induction levels generalizing first with
  | zero => exact locates_tooDeep _
  | succ levels ih =>
    refine locates_position_bind fun offset => locates_takeByte.bind fun head => ?_
    show Locates offset (if head.toNat / 32 = 7 then _ else _)
    split
    · split
      · exact locates_simple _ _
      · split
        · exact locates_takeByte.bind fun number => locates_simple _ _
        · exact locates_fail rfl nofun
    · exact (locates_argument _ _ _).bind fun argument => locates_content ih _ _ _

/-! ### Streams of items -/

namespace Decoder

/-- The decoder after a number of calls, whether they gave items or errors. -/
def advance (decoder : Decoder) : (calls : Nat) → Decoder
  | 0 => decoder
  | calls + 1 => (decoder.advance calls).next.2

theorem Reached.advance (h : Reached limits input decoder) (calls : Nat) :
    Reached limits input (decoder.advance calls) := by
  induction calls with
  | zero => exact h
  | succ calls ih => exact ih.next

theorem Reached.position_le (h : Reached limits input decoder) : decoder.position ≤ input.length := by
  obtain ⟨_, read, rfl, hposition⟩ := h.stands
  rw [hposition, List.length_append]
  exact Nat.le_add_right _ _

theorem position_le_next (decoder : Decoder) : decoder.position ≤ decoder.next.2.position :=
  (locates_item decoder.limits decoder.limits.maxDepth decoder.position decoder.cursor (Nat.le_refl _)).1

theorem showsIn_of_next {error : Error} (h : decoder.next.1 = .error error) :
    error.ShowsIn decoder.position decoder.next.2.position :=
  (locates_item decoder.limits decoder.limits.maxDepth decoder.position decoder.cursor (Nat.le_refl _)).2 error h

/-- An item has a byte at least. -/
theorem position_lt_next {value : Value} (h : decoder.next.1 = .ok value) :
    decoder.position < decoder.next.2.position := by
  obtain ⟨bytes, hadmitted, _, hposition⟩ :=
    (recognizes_item decoder.limits decoder.limits.maxDepth decoder.cursor _ value).1 (Prod.ext h rfl)
  have hlength := hadmitted.1.length_pos
  have hnext : decoder.next.2.position = decoder.position + bytes.length := hposition
  omega

theorem position_advance_le (decoder : Decoder) {calls more : Nat} (h : calls ≤ more) :
    (decoder.advance calls).position ≤ (decoder.advance more).position := by
  induction h with
  | refl => exact Nat.le_refl _
  | step _ ih => exact Nat.le_trans ih (position_le_next _)

end Decoder

/-- Over any number of calls, whether they give items or errors, a decoder never goes back and never past its input.
An item takes at least one byte. An error shows between where the decoder stood before the call and where it stands
after it, and the end of the input exactly there. -/
theorem positions_of_stream (h : Decoder.start limits input = .ok decoder) :
    (∀ calls more, calls ≤ more → (decoder.advance calls).position ≤ (decoder.advance more).position) ∧
    ∀ calls result after, (decoder.advance calls).next = (result, after) →
      after.position ≤ input.length ∧
      (∀ value, result = .ok value → (decoder.advance calls).position < after.position) ∧
      (∀ error offset, result = .error error → error.offset? = some offset →
        (decoder.advance calls).position ≤ offset ∧ offset ≤ after.position) ∧
      ∀ offset, result = .error (.truncated offset) → offset = after.position := by
  refine ⟨fun calls more => decoder.position_advance_le, ?_⟩
  intro calls result after hcall
  have hreached : Decoder.Reached limits input (decoder.advance (calls + 1)) :=
    (Decoder.Reached.start h).advance (calls + 1)
  have hresult : (decoder.advance calls).next.1 = result := congrArg Prod.fst hcall
  have hafter : (decoder.advance calls).next.2 = after := congrArg Prod.snd hcall
  subst hresult hafter
  refine ⟨hreached.position_le, fun value hv => Decoder.position_lt_next hv, ?_, ?_⟩
  · intro error offset he ho
    exact (Decoder.showsIn_of_next he).between offset ho
  · intro offset he
    exact (Decoder.showsIn_of_next he).atEnd offset rfl

/-- A map that is refused for its second key leaves the decoder before the second value. The byte `ff` that stands there
is no item, and after it the input is at its end. -/
theorem sample_stream_positions :
    ∃ decoder, Decoder.start {} [0xa2, 0x18, 0x05, 0x20, 0x05, 0xff] = .ok decoder ∧
      (decoder.advance 0).next.1 = .error (.duplicateKey 4) ∧ (decoder.advance 1).position = 5 ∧
      (decoder.advance 1).next.1 = .error (.unsupported 7 31 5) ∧
      (decoder.advance 1).position ≤ 5 ∧ 5 ≤ (decoder.advance 2).position ∧
      (decoder.advance 2).position ≤ 6 := by
  have hstart : Decoder.start {} [0xa2, 0x18, 0x05, 0x20, 0x05, 0xff] =
      .ok ⟨{}, ⟨[0xa2, 0x18, 0x05, 0x20, 0x05, 0xff], 0⟩⟩ := rfl
  obtain ⟨_, hcalls⟩ := positions_of_stream hstart
  obtain ⟨hle, _, hshows, _⟩ := hcalls 1 _ _ rfl
  obtain ⟨hfirst, hlast⟩ := hshows _ 5 rfl rfl
  exact ⟨_, hstart, rfl, rfl, rfl, hfirst, hlast, hle⟩

end WebAuthn.Cbor
