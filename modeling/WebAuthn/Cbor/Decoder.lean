import WebAuthn.Cbor.Error
import WebAuthn.Cbor.Value
import WebAuthn.Text.Utf8

/-!
# Reading CBOR

A reader takes a cursor and gives back a result and a cursor: also after an error, the cursor stands where
reading stopped, and the next item is read from there.

* `Cbor.Cursor`, `Cbor.Reader` — what is left of an input, and a step over it;
* `Cbor.item` — one data item, by recursion on the levels of nesting still allowed;
* `Cbor.Decoder` — an input under limits, and `Decoder.next`, which reads one item of it;
* `Cbor.decode` — exactly one item, with nothing after it.

Declared counts are held against the bytes that are left before anything is read for them: an array element
takes at least one byte and a map entry two.
-/

namespace WebAuthn.Cbor

/-! ### Cursors and readers -/

/-- The unread part of an input and the number of bytes before it. -/
structure Cursor where
  rest : Bytes
  position : Nat
  deriving DecidableEq, Repr

/-- A step that reads an `α` or fails, and says where it stopped in both cases. -/
def Reader (α : Type) : Type :=
  Cursor → Except Error α × Cursor

namespace Reader

variable {α β : Type}

protected def pure (a : α) : Reader α :=
  fun c => (.ok a, c)

/-- Reads with the first reader and, if it succeeds, goes on with the second from where it stopped. -/
protected def bind (r : Reader α) (next : α → Reader β) : Reader β := fun c =>
  match r c with
  | (.ok a, c) => next a c
  | (.error e, c) => (.error e, c)

def fail (error : Error) : Reader α :=
  fun c => (.error error, c)

instance : Monad Reader where
  pure := Reader.pure
  bind := Reader.bind

/-- The number of bytes read so far. -/
def position : Reader Nat :=
  fun c => (.ok c.position, c)

variable {r : Reader α} {next : α → Reader β} {cursor stop : Cursor}

theorem bind_of_ok {a : α} (h : r cursor = (.ok a, stop)) : (r >>= next) cursor = next a stop := by
  show r.bind next cursor = _
  rw [Reader.bind, h]

theorem bind_of_error {e : Error} (h : r cursor = (.error e, stop)) :
    (r >>= next) cursor = (.error e, stop) := by
  show r.bind next cursor = _
  rw [Reader.bind, h]

end Reader

/-- Whether at least `count` bytes are left. -/
def hasBytes : (count : Nat) → Bytes → Bool
  | 0, _ => true
  | _ + 1, [] => false
  | count + 1, _ :: rest => hasBytes count rest

theorem hasBytes_iff {count : Nat} {bytes : Bytes} : hasBytes count bytes = true ↔ count ≤ bytes.length := by
  induction count generalizing bytes with
  | zero => simp [hasBytes]
  | succ count ih => cases bytes <;> simp [hasBytes, ih]

def takeByte : Reader UInt8
  | ⟨b :: rest, position⟩ => (.ok b, ⟨rest, position + 1⟩)
  | ⟨[], position⟩ => (.error (.truncated position), ⟨[], position⟩)

/-- The next `count` bytes; nothing is read if there are fewer. -/
def take (count : Nat) : Reader Bytes := fun c =>
  if hasBytes count c.rest then
    (.ok (c.rest.take count), ⟨c.rest.drop count, c.position + count⟩)
  else (.error (.truncated c.position), c)

/-- Fails unless `count` bytes are left; reads nothing. -/
def require (count : Nat) : Reader Unit := fun c =>
  if hasBytes count c.rest then (.ok (), c) else (.error (.truncated c.position), c)

/-! ### Heads of items -/

/-- The value that a simple value denotes: the two booleans and null are the only ones. -/
def simple (number offset : Nat) : Reader Value :=
  match number with
  | 20 => pure (.bool false)
  | 21 => pure (.bool true)
  | 22 => pure .null
  | _ => .fail (.unsupported 7 number offset)

/-- The argument of an item's head: in the head itself, or in the 1, 2, 4 or 8 bytes after it. -/
def argument (major info offset : Nat) : Reader Nat :=
  match info with
  | 24 => Bytes.toNat <$> take 1
  | 25 => Bytes.toNat <$> take 2
  | 26 => Bytes.toNat <$> take 4
  | 27 => Bytes.toNat <$> take 8
  | 31 => .fail (.indefiniteLength offset)
  | _ => if info < 24 then pure info else .fail (.unsupported major info offset)

/-! ### Contents of items -/

/-- The next `count` items, onto the ones already read, which are kept in reverse. -/
def items (item : Reader Value) : (count : Nat) → (read : List Value) → Reader (List Value)
  | 0, read => pure read.reverse
  | count + 1, read => do
    let value ← item
    items item count (value :: read)

/-- The next `count` entries, onto the ones already read, which are kept in reverse. A key equal to an
earlier one is refused before its value is read. -/
def entries (item : Reader Value) :
    (count : Nat) → (read : List (Value × Value)) → Reader (List (Value × Value))
  | 0, read => pure read.reverse
  | count + 1, read => do
    let offset ← Reader.position
    let key ← item
    if read.any fun entry => entry.1 = key then .fail (.duplicateKey offset)
    else
      let value ← item
      entries item count ((key, value) :: read)

/-- What follows the argument of an item that is no simple value; nested items are read by `nested`. -/
def content (limits : Limits) (nested : Reader Value) (major argument offset : Nat) : Reader Value :=
  match major with
  | 0 => pure (.int argument)
  | 1 => pure (.int (-1 - argument))
  | 2 => Value.bytes <$> take argument
  | 3 => do
    let bytes ← take argument
    match Utf8.decode? bytes with
    | some text => pure (.text text)
    | none => .fail (.invalidUtf8 offset)
  | 4 => do
    require argument
    Value.array <$> items nested argument []
  | 5 =>
    if argument > limits.maxMapEntries then
      .fail (.tooManyEntries argument limits.maxMapEntries offset)
    else do
      require (2 * argument)
      Value.map <$> entries nested argument []
  | _ => Value.tag argument <$> nested

/-- One data item, at most `levels` deep. -/
def item (limits : Limits) : (levels : Nat) → Reader Value
  | 0 => .fail (.tooDeep limits.maxDepth)
  | levels + 1 => do
    let offset ← Reader.position
    let head ← takeByte
    let major := head.toNat / 32
    let info := head.toNat % 32
    if major = 7 then
      if info < 24 then simple info offset
      else if info = 24 then do
        -- a number that fits into the head is not refused here
        let number ← takeByte
        simple number.toNat offset
      else .fail (.unsupported major info offset)
    else do
      let argument ← argument major info offset
      content limits (item limits levels) major argument offset

/-! ### Inputs -/

/-- An input being read under limits. -/
structure Decoder where
  limits : Limits
  cursor : Cursor
  deriving DecidableEq, Repr

namespace Decoder

def start (limits : Limits) (input : Bytes) : Except Error Decoder :=
  if input.length > limits.maxLength then .error (.tooLong input.length limits.maxLength)
  else .ok ⟨limits, ⟨input, 0⟩⟩

/-- The next item, and the decoder behind it or behind what was read of it. -/
def next (decoder : Decoder) : Except Error Value × Decoder :=
  let (result, cursor) := item decoder.limits decoder.limits.maxDepth decoder.cursor
  (result, { decoder with cursor })

def remaining (decoder : Decoder) : Bytes :=
  decoder.cursor.rest

def position (decoder : Decoder) : Nat :=
  decoder.cursor.position

end Decoder

/-- The value of an input that is exactly one data item. -/
def decode (limits : Limits) (input : Bytes) : Except Error Value := do
  let decoder ← Decoder.start limits input
  let (result, decoder) := decoder.next
  let value ← result
  match decoder.remaining with
  | [] => .ok value
  | rest => .error (.trailingBytes rest.length)

end WebAuthn.Cbor
