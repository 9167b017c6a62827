import WebAuthn.Proofs.Bounds.Access
import WebAuthn.Proofs.Cbor.Positions

/-!
# Reading CBOR stays within the input

A decoder keeps its whole input and a position, and cuts what it reads out of the input: with slices, copies into room
of fixed width and differences of lengths. Whether these are in range depends on what was read before. Here they are
steps that may give nothing, and it is shown that they never do.

* `Checked.Place`, `Checked.Step` — an input with a position, and a step over it;
* `Step.item`, `decode`, `stream` — data items, inputs that are one item, and any number of calls of one decoder, as
  `Decoder.stream` has them;
* `Step.Follows` — the step is in range wherever the position is within the input, leaves it there, and does what a
  reader does; one lemma for each step;
* `follows_item` — so it is for data items, by induction on the levels;
* `decode_eq`, `stream_eq` — and for whole inputs.
-/

/-! ### Streams -/

namespace WebAuthn.Cbor.Decoder

/-- What a number of calls give, also after errors. -/
def results (decoder : Decoder) (calls : Nat) : List (Except Error Value) :=
  (List.range calls).map fun call => (decoder.advance call).next.1

/-- What a number of calls on one input give, and what they leave. -/
def stream (limits : Limits) (input : Bytes) (calls : Nat) :
    Except Error (List (Except Error Value) × Bytes) := do
  let decoder ← start limits input
  return (decoder.results calls, (decoder.advance calls).remaining)

end WebAuthn.Cbor.Decoder

namespace WebAuthn.Checked

open Cbor (Limits Value Error Reader)

variable {α β : Type}

/-! ### Places and steps -/

/-- An input, and the number of bytes of it that have been read. -/
structure Place where
  input : Bytes
  position : Nat
  deriving DecidableEq, Repr

namespace Place

def cursor (place : Place) : Cbor.Cursor :=
  ⟨place.input.drop place.position, place.position⟩

/-- The position is within the input or at its end. -/
def InBounds (place : Place) : Prop :=
  place.position ≤ place.input.length

def remaining? (place : Place) : Option Bytes :=
  suffix? place.input place.position

theorem remaining?_eq_some {place : Place} (h : place.InBounds) :
    place.remaining? = some place.cursor.rest :=
  suffix?_eq_some h

-- Past the end of the input there is nothing to slice, not even no bytes.
example : Place.remaining? ⟨[], 1⟩ = none := rfl

theorem length_rest (place : Place) : place.cursor.rest.length = place.input.length - place.position :=
  List.length_drop

end Place

/-- A step that gives a result or an error and the place where it stopped, or nothing at all when an access is out of
range. -/
def Step (α : Type) : Type :=
  Place → Option (Except Error α × Place)

namespace Step

protected def pure (a : α) : Step α :=
  fun place => some (.ok a, place)

protected def bind (m : Step α) (next : α → Step β) : Step β := fun place =>
  match m place with
  | none => none
  | some (.ok a, place) => next a place
  | some (.error e, place) => some (.error e, place)

instance : Monad Step where
  pure := Step.pure
  bind := Step.bind

def fail (error : Error) : Step α :=
  fun place => some (.error error, place)

/-- Fails because the input ends here. -/
def truncated : Step α :=
  fun place => some (.error (.truncated place.position), place)

def position : Step Nat :=
  fun place => some (.ok place.position, place)

def unread : Step Nat := fun place =>
  (subtract? place.input.length place.position).map fun count => (.ok count, place)

/-- The slice of the next `count` bytes. -/
def cut (count : Nat) : Step Bytes := fun place =>
  (slice? place.input place.position (place.position + count)).map fun bytes =>
    (.ok bytes, ⟨place.input, place.position + count⟩)

def copied (width : Nat) (bytes : Bytes) : Step (FixedBytes width) := fun place =>
  (copy? width bytes).map fun fixed => (.ok fixed, place)

/-! ### Items -/

def takeByte : Step UInt8 := fun place =>
  match place.input[place.position]? with
  | some b => some (.ok b, ⟨place.input, place.position + 1⟩)
  | none => some (.error (.truncated place.position), place)

def take (count : Nat) : Step Bytes := do
  let unread ← unread
  if count > unread then truncated else cut count

def require (count : Nat) : Step Unit := do
  let unread ← unread
  if count ≤ unread then pure () else truncated

/-- The number in the next `width` bytes. -/
def number (width : Nat) : Step Nat := do
  let bytes ← take width
  let fixed ← copied width bytes
  pure (Bytes.toNat fixed.bytes)

def simple (number offset : Nat) : Step Value :=
  match number with
  | 20 => pure (.bool false)
  | 21 => pure (.bool true)
  | 22 => pure .null
  | _ => fail (.unsupported 7 number offset)

def argument (major info offset : Nat) : Step Nat :=
  match info with
  | 24 => UInt8.toNat <$> takeByte
  | 25 => number 2
  | 26 => number 4
  | 27 => number 8
  | 31 => fail (.indefiniteLength offset)
  | _ => if info < 24 then pure info else fail (.unsupported major info offset)

def items (item : Step Value) : (count : Nat) → (read : List Value) → Step (List Value)
  | 0, read => pure read.reverse
  | count + 1, read => do
    let value ← item
    items item count (value :: read)

def entries (item : Step Value) :
    (count : Nat) → (read : List (Value × Value)) → Step (List (Value × Value))
  | 0, read => pure read.reverse
  | count + 1, read => do
    let offset ← position
    let key ← item
    if read.any fun entry => entry.1 = key then fail (.duplicateKey offset)
    else
      let value ← item
      entries item count ((key, value) :: read)

def content (limits : Limits) (nested : Step Value) (major argument offset : Nat) : Step Value :=
  match major with
  | 0 => pure (.int argument)
  | 1 => pure (.int (-1 - argument))
  | 2 => Value.bytes <$> take argument
  | 3 => do
    let bytes ← take argument
    match Utf8.decode? bytes with
    | some text => pure (.text text)
    | none => fail (.invalidUtf8 offset)
  | 4 => do
    require argument
    Value.array <$> items nested argument []
  | 5 =>
    if argument > limits.maxMapEntries then
      fail (.tooManyEntries argument limits.maxMapEntries offset)
    else do
      require (2 * argument)
      Value.map <$> entries nested argument []
  | _ => Value.tag argument <$> nested

def item (limits : Limits) : (levels : Nat) → Step Value
  | 0 => fail (.tooDeep limits.maxDepth)
  | levels + 1 => do
    let offset ← position
    let head ← takeByte
    let major := head.toNat / 32
    let info := head.toNat % 32
    if major = 7 then
      if info < 24 then simple info offset
      else if info = 24 then do
        let number ← takeByte
        simple number.toNat offset
      else fail (.unsupported major info offset)
    else do
      let argument ← argument major info offset
      content limits (item limits levels) major argument offset

end Step

/-! ### Inputs -/

/-- The start of an input that is no longer than the limit. -/
def start (limits : Limits) (input : Bytes) : Except Error Place :=
  if input.length > limits.maxLength then .error (.tooLong input.length limits.maxLength)
  else .ok ⟨input, 0⟩

def next (limits : Limits) : Step Value :=
  Step.item limits limits.maxDepth

/-- The value of an input that is exactly one data item. -/
def decode (limits : Limits) (input : Bytes) : Option (Except Error Value) :=
  match start limits input with
  | .error e => some (.error e)
  | .ok place =>
    (next limits place).bind fun
      | (.error e, _) => some (.error e)
      | (.ok value, place) => place.remaining?.map fun rest =>
        if rest.length = 0 then .ok value else .error (.trailingBytes rest.length)

/-- What a number of calls give, also after errors, and where the last one stopped. -/
def calls (limits : Limits) : (count : Nat) → Place → Option (List (Except Error Value) × Place)
  | 0, place => some ([], place)
  | count + 1, place =>
    (calls limits count place).bind fun (results, place) =>
      (next limits place).map fun (result, place) => (results ++ [result], place)

/-- What a number of calls on one input give, and what they leave. -/
def stream (limits : Limits) (input : Bytes) (count : Nat) :
    Option (Except Error (List (Except Error Value) × Bytes)) :=
  match start limits input with
  | .error e => some (.error e)
  | .ok place =>
    (calls limits count place).bind fun (results, place) =>
      place.remaining?.map fun rest => .ok (results, rest)

/-! ### Steps that stay in range -/

namespace Step

/-- Where the position is within the input, the step is in range, does what the reader does, and leaves the position
within the input. -/
def Follows (m : Step α) (r : Reader α) : Prop :=
  ∀ place : Place, place.InBounds → ∃ stop : Place,
    m place = some ((r place.cursor).1, stop) ∧ (r place.cursor).2 = stop.cursor ∧ stop.InBounds

variable {m : Step α} {r : Reader α}

theorem follows_pure (a : α) : (pure a : Step α).Follows (pure a) :=
  fun place h => ⟨place, rfl, rfl, h⟩

theorem follows_fail (error : Error) : (fail error : Step α).Follows (.fail error) :=
  fun place h => ⟨place, rfl, rfl, h⟩

theorem follows_position : position.Follows Reader.position :=
  fun place h => ⟨place, rfl, rfl, h⟩

/-- What follows a step may use what the reader has read. -/
theorem Follows.bind {next : α → Step β} {f : α → Reader β} (h : m.Follows r)
    (hn : ∀ a cursor, (r cursor).1 = .ok a → (next a).Follows (f a)) : (m >>= next).Follows (r >>= f) := by
  intro place hplace
  obtain ⟨middle, hm, hcursor, hmiddle⟩ := h place hplace
  rcases hr : r place.cursor with ⟨result, after⟩
  rw [hr] at hm hcursor
  cases result with
  | error e =>
    rw [Reader.bind_of_error hr]
    refine ⟨middle, ?_, hcursor, hmiddle⟩
    show Step.bind m next place = _
    rw [Step.bind, hm]
  | ok a =>
    have hafter : after = middle.cursor := hcursor
    rw [Reader.bind_of_ok hr, hafter]
    obtain ⟨stop, hnext, hstop⟩ := hn a place.cursor (congrArg Prod.fst hr) middle hmiddle
    refine ⟨stop, ?_, hstop⟩
    show Step.bind m next place = _
    rw [Step.bind, hm]
    exact hnext

theorem Follows.map (h : m.Follows r) (f : α → β) : (f <$> m).Follows (f <$> r) :=
  h.bind fun a _ _ => follows_pure (f a)

/-- The difference of the length and the position. -/
theorem unread_bind {place : Place} (h : place.InBounds) (next : Nat → Step β) :
    (unread >>= next) place = next place.cursor.rest.length place := by
  show Step.bind unread next place = _
  rw [Step.bind, unread, subtract?_eq_some h, place.length_rest]
  rfl

theorem follows_takeByte : takeByte.Follows Cbor.takeByte := by
  intro place h
  have hhead : (place.input.drop place.position).head? = place.input[place.position]? := List.head?_drop
  cases hrest : place.input.drop place.position with
  | nil =>
    rw [hrest] at hhead
    refine ⟨place, ?_, ?_, h⟩
    · rw [takeByte, ← hhead, Place.cursor, hrest]
      rfl
    · rw [Place.cursor, hrest]
      rfl
  | cons b rest =>
    rw [hrest] at hhead
    have hlt : place.position < place.input.length := by
      have hlength : (place.input.drop place.position).length = rest.length + 1 := congrArg List.length hrest
      rw [List.length_drop] at hlength
      omega
    have hdrop : place.input.drop (place.position + 1) = rest := by
      rw [← List.drop_drop, hrest]
      rfl
    refine ⟨⟨place.input, place.position + 1⟩, ?_, ?_, hlt⟩
    · rw [takeByte, ← hhead, Place.cursor, hrest]
      rfl
    · rw [Place.cursor, hrest]
      show _ = Cbor.Cursor.mk (place.input.drop (place.position + 1)) (place.position + 1)
      rw [hdrop]
      rfl

theorem follows_take (count : Nat) : (take count).Follows (Cbor.take count) := by
  intro place h
  have hbytes : Cbor.hasBytes count place.cursor.rest = true ↔ count ≤ place.cursor.rest.length :=
    Cbor.hasBytes_iff
  rw [take, unread_bind h]
  by_cases hcount : count ≤ place.cursor.rest.length
  · have hstop : place.position + count ≤ place.input.length := by
      rw [place.length_rest] at hcount
      unfold Place.InBounds at h
      omega
    have htake : Cbor.take count place.cursor =
        (.ok (place.cursor.rest.take count), ⟨place.cursor.rest.drop count, place.position + count⟩) :=
      if_pos (hbytes.2 hcount)
    have hcut : cut count place =
        some (.ok (place.cursor.rest.take count), ⟨place.input, place.position + count⟩) := by
      rw [cut, slice?_eq_some (Nat.le_add_right _ _) hstop, Nat.add_sub_cancel_left]
      rfl
    rw [if_neg (Nat.not_lt.2 hcount), htake]
    refine ⟨_, hcut, ?_, hstop⟩
    show Cbor.Cursor.mk ((place.input.drop place.position).drop count) _ = _
    rw [List.drop_drop]
    rfl
  · have htake : Cbor.take count place.cursor = (.error (.truncated place.position), place.cursor) :=
      if_neg fun hb => hcount (hbytes.1 hb)
    rw [if_pos (Nat.lt_of_not_le hcount), htake]
    exact ⟨place, rfl, rfl, h⟩

theorem follows_require (count : Nat) : (require count).Follows (Cbor.require count) := by
  intro place h
  have hbytes : Cbor.hasBytes count place.cursor.rest = true ↔ count ≤ place.cursor.rest.length :=
    Cbor.hasBytes_iff
  rw [require, unread_bind h]
  by_cases hcount : count ≤ place.cursor.rest.length
  · have hrequire : Cbor.require count place.cursor = (.ok (), place.cursor) := if_pos (hbytes.2 hcount)
    rw [if_pos hcount, hrequire]
    exact ⟨place, rfl, rfl, h⟩
  · have hrequire : Cbor.require count place.cursor = (.error (.truncated place.position), place.cursor) :=
      if_neg fun hb => hcount (hbytes.1 hb)
    rw [if_neg hcount, hrequire]
    exact ⟨place, rfl, rfl, h⟩

/-- What is taken has the length that was asked for. -/
theorem length_of_take {count : Nat} {cursor : Cbor.Cursor} {bytes : Bytes}
    (h : (Cbor.take count cursor).1 = .ok bytes) : bytes.length = count := by
  unfold Cbor.take at h
  split at h
  · next hbytes =>
    cases h
    exact List.length_take_of_le (Cbor.hasBytes_iff.1 hbytes)
  · cases h

/-- The copy of what was taken is in range, because it was taken in the width of the room. -/
theorem follows_number (width : Nat) : (number width).Follows (Bytes.toNat <$> Cbor.take width) := by
  refine (follows_take width).bind fun bytes cursor hread => ?_
  have hcopy : copy? width bytes = some ⟨bytes, length_of_take hread⟩ :=
    copy?_bytes ⟨bytes, length_of_take hread⟩
  intro place h
  refine ⟨place, ?_, rfl, h⟩
  show Step.bind (copied width bytes) _ place = _
  rw [Step.bind, copied, hcopy]
  rfl

/-- One byte is a number of one byte. -/
theorem toNat_takeByte : UInt8.toNat <$> Cbor.takeByte = Bytes.toNat <$> Cbor.take 1 := by
  funext cursor
  obtain ⟨rest, position⟩ := cursor
  cases rest with
  | nil => rfl
  | cons b rest =>
    show ((.ok b.toNat, _) : Except Error Nat × Cbor.Cursor) = (.ok (256 * 0 + b.toNat), _)
    rw [Nat.mul_zero, Nat.zero_add]
    rfl

/-! ### Items that stay in range -/

theorem follows_simple (number offset : Nat) : (simple number offset).Follows (Cbor.simple number offset) := by
  by_cases hfalse : number = 20
  · subst hfalse
    exact follows_pure _
  by_cases htrue : number = 21
  · subst htrue
    exact follows_pure _
  by_cases hnull : number = 22
  · subst hnull
    exact follows_pure _
  simp only [simple, Cbor.simple]
  exact follows_fail _

theorem follows_argument (major info offset : Nat) :
    (argument major info offset).Follows (Cbor.argument major info offset) := by
  unfold argument
  split
  · show Follows _ (Bytes.toNat <$> Cbor.take 1)
    rw [← toNat_takeByte]
    exact follows_takeByte.map _
  · exact follows_number 2
  · exact follows_number 4
  · exact follows_number 8
  · exact follows_fail _
  · next hone htwo hfour height hindefinite =>
    -- the remaining case does not reduce until the literals before it are excluded once more
    have hother : Cbor.argument major info offset =
        if info < 24 then pure info else .fail (.unsupported major info offset) := by
      unfold Cbor.argument
      split
      · exact absurd rfl hone
      · exact absurd rfl htwo
      · exact absurd rfl hfour
      · exact absurd rfl height
      · exact absurd rfl hindefinite
      · rfl
    rw [hother]
    split
    · exact follows_pure _
    · exact follows_fail _

section Contents

variable {nested : Step Value} {reader : Reader Value} {limits : Limits}

theorem follows_items (h : nested.Follows reader) (count : Nat) (read : List Value) :
    (items nested count read).Follows (Cbor.items reader count read) := by
  induction count generalizing read with
  | zero => exact follows_pure _
  | succ count ih => exact h.bind fun value _ _ => ih (value :: read)

theorem follows_entries (h : nested.Follows reader) (count : Nat) (read : List (Value × Value)) :
    (entries nested count read).Follows (Cbor.entries reader count read) := by
  induction count generalizing read with
  | zero => exact follows_pure _
  | succ count ih =>
    refine follows_position.bind fun offset _ _ => h.bind fun key _ _ => ?_
    split
    · exact follows_fail _
    · exact h.bind fun value _ _ => ih ((key, value) :: read)

theorem follows_content (h : nested.Follows reader) (major argument offset : Nat) :
    (content limits nested major argument offset).Follows
      (Cbor.content limits reader major argument offset) := by
  match major with
  | 0 => exact follows_pure _
  | 1 => exact follows_pure _
  | 2 => exact (follows_take _).map _
  | 3 =>
    refine (follows_take argument).bind fun bytes _ _ => ?_
    cases Utf8.decode? bytes with
    | none => exact follows_fail _
    | some text => exact follows_pure _
  | 4 => exact (follows_require argument).bind fun _ _ _ => (follows_items h _ _).map _
  | 5 =>
    show Follows (if argument > limits.maxMapEntries then _ else _)
      (if argument > limits.maxMapEntries then _ else _)
    split
    · exact follows_fail _
    · exact (follows_require _).bind fun _ _ _ => (follows_entries h _ _).map _
  | _ + 6 => exact h.map _

end Contents

/-- Reading a data item stays within the input. -/
theorem follows_item (limits : Limits) (levels : Nat) :
    (item limits levels).Follows (Cbor.item limits levels) := by
  induction levels with
  | zero => exact follows_fail _
  | succ levels ih =>
    refine follows_position.bind fun offset _ _ => follows_takeByte.bind fun head _ _ => ?_
    show Follows (if head.toNat / 32 = 7 then _ else _) (if head.toNat / 32 = 7 then _ else _)
    split
    · split
      · exact follows_simple _ _
      · split
        · exact follows_takeByte.bind fun number _ _ => follows_simple _ _
        · exact follows_fail _
    · exact (follows_argument _ _ _).bind fun argument _ _ => follows_content ih _ _ _

end Step

/-! ### Inputs that stay in range -/

section Inputs

variable {limits : Limits} {input : Bytes} {place : Place}

/-- A place, and the decoder that stands there. -/
def Place.decoder (limits : Limits) (place : Place) : Cbor.Decoder :=
  ⟨limits, place.cursor⟩

/-- The next item is read within the input, and what it leaves is within the input. -/
theorem next_eq (limits : Limits) (h : place.InBounds) : ∃ stop : Place,
    next limits place = some ((place.decoder limits).next.1, stop) ∧
      (place.decoder limits).next.2 = stop.decoder limits ∧ stop.InBounds := by
  obtain ⟨stop, hnext, hcursor, hstop⟩ := Step.follows_item limits limits.maxDepth place h
  exact ⟨stop, hnext, congrArg (Cbor.Decoder.mk limits) hcursor, hstop⟩

theorem start_eq (limits : Limits) (input : Bytes) :
    Cbor.Decoder.start limits input = (start limits input).map (Place.decoder limits) := by
  unfold Cbor.Decoder.start start
  split <;> rfl

theorem inBounds_of_start (h : start limits input = .ok place) : place.InBounds := by
  unfold start at h
  split at h
  · cases h
  · cases h
    exact Nat.zero_le _

/-- What decoding amounts to once the input is known to be short enough. -/
theorem decode_of_start {decoder : Cbor.Decoder} (h : Cbor.Decoder.start limits input = .ok decoder) :
    Cbor.decode limits input = decoder.next.1 >>= fun value =>
      if decoder.next.2.remaining.length = 0 then .ok value
      else .error (.trailingBytes decoder.next.2.remaining.length) := by
  rw [Cbor.decode, h]
  dsimp only [bind, Except.bind]
  rcases decoder.next with ⟨result, after⟩
  cases result with
  | error e => rfl
  | ok value =>
    dsimp only
    cases after.remaining <;> rfl

/-- Decoding an input stays in range. -/
theorem decode_eq (limits : Limits) (input : Bytes) : decode limits input = some (Cbor.decode limits input) := by
  rw [decode]
  cases hstart : start limits input with
  | error e => rw [Cbor.decode, start_eq, hstart]; rfl
  | ok place =>
    have hdecoder : Cbor.Decoder.start limits input = .ok (place.decoder limits) := by
      rw [start_eq, hstart]
      rfl
    obtain ⟨stop, hnext, hafter, hstop⟩ := next_eq limits (inBounds_of_start hstart)
    rw [decode_of_start hdecoder, hafter]
    dsimp only
    rw [hnext, Option.bind_some]
    cases (place.decoder limits).next.1 with
    | error e => rfl
    | ok value =>
      dsimp only
      rw [Place.remaining?_eq_some hstop]
      rfl

/-- Any number of calls stay in range. -/
theorem calls_eq (limits : Limits) (count : Nat) (h : place.InBounds) : ∃ stop : Place,
    calls limits count place = some ((place.decoder limits).results count, stop) ∧
      (place.decoder limits).advance count = stop.decoder limits ∧ stop.InBounds := by
  induction count with
  | zero => exact ⟨place, rfl, rfl, h⟩
  | succ count ih =>
    obtain ⟨middle, hcalls, hdecoder, hmiddle⟩ := ih
    obtain ⟨stop, hnext, hafter, hstop⟩ := next_eq limits hmiddle
    refine ⟨stop, ?_, ?_, hstop⟩
    · rw [calls, hcalls, Option.bind_some]
      show (next limits middle).map _ = _
      rw [hnext, Option.map_some, Cbor.Decoder.results, Cbor.Decoder.results, List.range_succ,
        List.map_append, List.map_singleton, hdecoder]
    · rw [Cbor.Decoder.advance, hdecoder, hafter]

/-- Any number of calls on one input, and what they leave, stay in range. -/
theorem stream_eq (limits : Limits) (input : Bytes) (count : Nat) :
    stream limits input count = some (Cbor.Decoder.stream limits input count) := by
  unfold stream Cbor.Decoder.stream
  rw [start_eq]
  cases hstart : start limits input with
  | error e => rfl
  | ok place =>
    obtain ⟨stop, hcalls, hdecoder, hstop⟩ := calls_eq limits count (inBounds_of_start hstart)
    show (calls limits count place).bind _ = some (Except.ok (_, Cbor.Decoder.remaining _))
    rw [hcalls, Option.bind_some, hdecoder]
    show (Place.remaining? stop).map _ = _
    rw [Place.remaining?_eq_some hstop]
    rfl

end Inputs

end WebAuthn.Checked
