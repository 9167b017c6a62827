import WebAuthn.Proofs.Cbor.Recognition

/-!
# What reading CBOR may cost

A few bytes can declare an array of any length, or hold a value that is much larger than they are, if nothing is held
against the input. Here neither happens: a value has no more nodes and string bytes than the bytes it was read from, and
room is reserved only for elements that the unread bytes could still hold.

Reservations are no part of what reading gives back, so they are recorded by a second run beside it. It makes the same
steps, and one more where the elements of an array or the entries of a map are about to be read.

* `Value.nodes`, `Value.stringBytes` — the size of a value; `Encodes.size_le` bounds it by the length of an encoding;
* `Metered` — a reader that also tells what it reserved; `Metered.item` is the metered reader of data items;
* `Meters` — a metered reader does what the reader does, and its reservations are within the input; one lemma for each
  step;
* `meters_item` — so it is for data items, by induction on the levels;
* `next_stays_within_input` — what the next item of a decoder costs.
-/

namespace WebAuthn.Cbor

/-! ### Sizes of values -/

namespace Value

mutual
/-- The sum over all nodes: the value, and the items, keys, values and tagged values at all levels of it. -/
def total (cost : Value → Nat) : Value → Nat
  | .array items => cost (.array items) + totalItems cost items
  | .map entries => cost (.map entries) + totalEntries cost entries
  | .tag number content => cost (.tag number content) + total cost content
  | value => cost value

def totalItems (cost : Value → Nat) : List Value → Nat
  | [] => 0
  | value :: rest => total cost value + totalItems cost rest

def totalEntries (cost : Value → Nat) : List (Value × Value) → Nat
  | [] => 0
  | (key, value) :: rest => total cost key + total cost value + totalEntries cost rest
end

/-- The bytes of a string itself; a text is kept in the bytes it is written in. -/
def ownBytes : Value → Nat
  | .bytes content => content.length
  | .text content => (Utf8.encode content).length
  | _ => 0

def nodes (value : Value) : Nat :=
  value.total fun _ => 1

def stringBytes (value : Value) : Nat :=
  value.total ownBytes

end Value

theorem Row.size_le {items : List Value} {bytes : Bytes}
    (h : Row (fun value bytes => value.nodes + value.stringBytes ≤ bytes.length) items bytes) :
    Value.totalItems (fun _ => 1) items + Value.totalItems Value.ownBytes items ≤ bytes.length := by
  induction h with
  | nil => exact Nat.le_refl 0
  | cons ha _ ih =>
    simp only [Value.nodes, Value.stringBytes] at ha
    simp only [Value.totalItems, List.length_append]
    omega

theorem PairRow.size_le {entries : List (Value × Value)} {bytes : Bytes}
    (h : PairRow (fun value bytes => value.nodes + value.stringBytes ≤ bytes.length) entries bytes) :
    Value.totalEntries (fun _ => 1) entries + Value.totalEntries Value.ownBytes entries ≤ bytes.length := by
  induction h with
  | nil => exact Nat.le_refl 0
  | cons hk hv _ ih =>
    simp only [Value.nodes, Value.stringBytes] at hk hv
    simp only [Value.totalEntries, List.length_append]
    omega

/-- The content of an item takes the bytes of its strings and of its nested items; the head pays for the item. -/
theorem Content.size_le {major argument : Nat} {value : Value} {body : Bytes}
    (h : Content (fun value bytes => value.nodes + value.stringBytes ≤ bytes.length) major argument value body) :
    value.nodes + value.stringBytes ≤ body.length + 1 := by
  cases h with
  | unsigned => exact Nat.le_refl 1
  | negative => exact Nat.le_refl 1
  | bytes => exact Nat.le_of_eq (Nat.add_comm 1 _)
  | text => exact Nat.le_of_eq (Nat.add_comm 1 _)
  | array hr =>
    have hsize := hr.size_le
    simp only [Value.nodes, Value.stringBytes, Value.total, Value.ownBytes]
    omega
  | map hr =>
    have hsize := hr.size_le
    simp only [Value.nodes, Value.stringBytes, Value.total, Value.ownBytes]
    omega
  | tag hc =>
    simp only [Value.nodes, Value.stringBytes] at hc
    simp only [Value.nodes, Value.stringBytes, Value.total, Value.ownBytes]
    omega

/-- An encoding has a byte for every node, and all bytes of the strings. -/
theorem Encodes.size_le {value : Value} {bytes : Bytes} (h : Encodes value bytes) :
    value.nodes + value.stringBytes ≤ bytes.length := by
  refine Encodes.induct (P := fun value bytes => value.nodes + value.stringBytes ≤ bytes.length) ?_ ?_ ?_ h
  · intro major info argument value following body _ hc
    have hsize := hc.size_le
    simp only [List.length_cons, List.length_append]
    omega
  · intro number value hs
    cases hs <;> decide
  · intro number value hs
    cases hs <;> decide

/-! ### Reservations -/

/-- Room for the elements of an array, or for the entries of a map. -/
inductive Room where
  | items (count : Nat)
  | entries (count : Nat)
  deriving DecidableEq, Repr

/-- Room, and the number of bytes that were unread when it was reserved. -/
structure Reservation where
  room : Room
  unread : Nat
  deriving DecidableEq, Repr

/-- The unread bytes could hold what room is reserved for: a byte for each element, two for each entry. -/
def Reservation.Fits (limits : Limits) (reservation : Reservation) : Prop :=
  match reservation.room with
  | .items count => count ≤ reservation.unread
  | .entries count => 2 * count ≤ reservation.unread ∧ count ≤ limits.maxMapEntries

/-- A reader that also tells what it reserved, in order and up to where it stopped. -/
def Metered (α : Type) : Type :=
  Cursor → (Except Error α × Cursor) × List Reservation

namespace Metered

variable {α β : Type}

def lift (r : Reader α) : Metered α :=
  fun c => (r c, [])

protected def bind (m : Metered α) (next : α → Metered β) : Metered β := fun c =>
  match m c with
  | ((.ok a, c), front) => ((next a c).1, front ++ (next a c).2)
  | ((.error e, c), front) => ((.error e, c), front)

instance : Monad Metered where
  pure a := lift (pure a)
  bind := Metered.bind

section Bind

variable {m : Metered α} {next : α → Metered β} {cursor stop : Cursor} {front : List Reservation}

theorem bind_of_ok {a : α} (h : m cursor = ((.ok a, stop), front)) :
    (m >>= next) cursor = ((next a stop).1, front ++ (next a stop).2) := by
  show m.bind next cursor = _
  rw [Metered.bind, h]

theorem bind_of_error {e : Error} (h : m cursor = ((.error e, stop), front)) :
    (m >>= next) cursor = ((.error e, stop), front) := by
  show m.bind next cursor = _
  rw [Metered.bind, h]

end Bind

def reserve (room : Room) : Metered Unit :=
  fun c => ((.ok (), c), [⟨room, c.rest.length⟩])

/-- Reserves room if at least `count` bytes are left. -/
def requireRoom (count : Nat) (room : Room) : Metered Unit := do
  lift (require count)
  reserve room

def items (item : Metered Value) : (count : Nat) → (read : List Value) → Metered (List Value)
  | 0, read => pure read.reverse
  | count + 1, read => do
    let value ← item
    items item count (value :: read)

def entries (item : Metered Value) :
    (count : Nat) → (read : List (Value × Value)) → Metered (List (Value × Value))
  | 0, read => pure read.reverse
  | count + 1, read => do
    let offset ← lift Reader.position
    let key ← item
    if read.any fun entry => entry.1 = key then lift (.fail (.duplicateKey offset))
    else
      let value ← item
      entries item count ((key, value) :: read)

/-- What follows the argument of an item that is no simple value. Room is reserved before the first element is read. -/
def content (limits : Limits) (nested : Metered Value) (major argument offset : Nat) : Metered Value :=
  match major with
  | 0 => pure (.int argument)
  | 1 => pure (.int (-1 - argument))
  | 2 => Value.bytes <$> lift (take argument)
  | 3 => do
    let bytes ← lift (take argument)
    match Utf8.decode? bytes with
    | some text => pure (.text text)
    | none => lift (.fail (.invalidUtf8 offset))
  | 4 => do
    requireRoom argument (.items argument)
    Value.array <$> items nested argument []
  | 5 =>
    if argument > limits.maxMapEntries then
      lift (.fail (.tooManyEntries argument limits.maxMapEntries offset))
    else do
      requireRoom (2 * argument) (.entries argument)
      Value.map <$> entries nested argument []
  | _ => Value.tag argument <$> nested

def item (limits : Limits) : (levels : Nat) → Metered Value
  | 0 => lift (.fail (.tooDeep limits.maxDepth))
  | levels + 1 => do
    let offset ← lift Reader.position
    let head ← lift takeByte
    let major := head.toNat / 32
    let info := head.toNat % 32
    if major = 7 then
      if info < 24 then lift (simple info offset)
      else if info = 24 then do
        let number ← lift takeByte
        lift (simple number.toNat offset)
      else lift (.fail (.unsupported major info offset))
    else do
      let argument ← lift (argument major info offset)
      content limits (item limits levels) major argument offset

end Metered

/-- The next item, and all reservations that were made for it or for what was read of it. -/
def Decoder.nextMetered (decoder : Decoder) : (Except Error Value × Decoder) × List Reservation :=
  let ((result, cursor), reservations) :=
    Metered.item decoder.limits decoder.limits.maxDepth decoder.cursor
  ((result, { decoder with cursor }), reservations)

namespace Value

mutual
/-- The arrays and maps in the value, each before the ones in it. -/
def rooms : Value → List Room
  | .array items => .items items.length :: roomsItems items
  | .map entries => .entries entries.length :: roomsEntries entries
  | .tag _ content => rooms content
  | _ => []

def roomsItems : List Value → List Room
  | [] => []
  | value :: rest => rooms value ++ roomsItems rest

def roomsEntries : List (Value × Value) → List Room
  | [] => []
  | (key, value) :: rest => rooms key ++ (rooms value ++ roomsEntries rest)
end

end Value

/-! ### Readers and metered readers -/

section Meters

variable {α β : Type} {limits : Limits} {Q : α → List Room → Prop} {T : β → List Room → Prop}

/-- The metered reader does what the reader does, also where it fails. What it reserves is within the input, and on
success it is the room that `Q` asks for. -/
def Meters (limits : Limits) (m : Metered α) (r : Reader α) (Q : α → List Room → Prop) : Prop :=
  ∀ cursor, (m cursor).1 = r cursor ∧ (∀ reservation ∈ (m cursor).2, reservation.Fits limits) ∧
    ∀ a, (r cursor).1 = .ok a → Q a ((m cursor).2.map Reservation.room)

theorem meters_lift {r : Reader α} (h : ∀ cursor a, (r cursor).1 = .ok a → Q a []) :
    Meters limits (Metered.lift r) r Q := by
  intro cursor
  exact ⟨rfl, List.forall_mem_nil _, h cursor⟩

theorem meters_pure {a : α} (h : Q a []) : Meters limits (pure a) (pure a) Q := by
  refine meters_lift fun cursor b hb => ?_
  cases hb
  exact h

theorem meters_fail (error : Error) : Meters limits (Metered.lift (Reader.fail error)) (Reader.fail error) Q :=
  meters_lift fun cursor a ha => by cases ha

theorem Meters.bind {m : Metered α} {r : Reader α} {next : α → Metered β} {other : α → Reader β}
    {N : α → β → List Room → Prop} (h : Meters limits m r Q)
    (hn : ∀ a, Meters limits (next a) (other a) (N a))
    (hQ : ∀ a b front back, Q a front → N a b back → T b (front ++ back)) :
    Meters limits (m >>= next) (r >>= other) T := by
  intro cursor
  obtain ⟨hsame, hfits, hrooms⟩ := h cursor
  rcases hm : m cursor with ⟨⟨result, stop⟩, front⟩
  rw [hm] at hsame hfits hrooms
  cases result with
  | error e =>
    rw [Reader.bind_of_error hsame.symm, Metered.bind_of_error hm]
    exact ⟨rfl, hfits, fun b hb => by cases hb⟩
  | ok a =>
    obtain ⟨hsame', hfits', hrooms'⟩ := hn a stop
    rw [Reader.bind_of_ok hsame.symm, Metered.bind_of_ok hm]
    refine ⟨hsame', List.forall_mem_append.2 ⟨hfits, hfits'⟩, fun b hb => ?_⟩
    rw [List.map_append]
    exact hQ a b _ _ (hrooms a (congrArg Prod.fst hsame.symm)) (hrooms' b hb)

theorem Meters.map {m : Metered α} {r : Reader α} (h : Meters limits m r Q) (f : α → β)
    (hQ : ∀ a rooms, Q a rooms → T (f a) rooms) : Meters limits (f <$> m) (f <$> r) T := by
  refine h.bind (N := fun a b rooms => b = f a ∧ rooms = []) (fun a => meters_pure ⟨rfl, rfl⟩) ?_
  rintro a _ front _ hfront ⟨rfl, rfl⟩
  rw [List.append_nil]
  exact hQ a front hfront

/-- A step without reservations before the ones of the next reader. -/
theorem Meters.lift_bind {r : Reader α} {next : α → Metered β} {other : α → Reader β}
    (hn : ∀ a, Meters limits (next a) (other a) T) :
    Meters limits (Metered.lift r >>= next) (r >>= other) T := by
  refine Meters.bind (Q := fun _ rooms => rooms = []) (meters_lift fun _ _ _ => rfl) hn ?_
  rintro a b _ back rfl hback
  exact hback

/-- Room is within the input where the check before it has found enough bytes. -/
theorem meters_requireRoom (count : Nat) (room : Room)
    (hroom : ∀ unread, count ≤ unread → Reservation.Fits limits ⟨room, unread⟩) :
    Meters limits (Metered.requireRoom count room) (require count) fun _ rooms => rooms = [room] := by
  intro cursor
  unfold Metered.requireRoom
  by_cases hleft : hasBytes count cursor.rest
  · have hrequire : require count cursor = (.ok (), cursor) := if_pos hleft
    have hlift : Metered.lift (require count) cursor = ((.ok (), cursor), []) :=
      congrArg (·, []) hrequire
    rw [Metered.bind_of_ok hlift, hrequire]
    refine ⟨rfl, ?_, fun _ _ => rfl⟩
    exact List.forall_mem_singleton.2 (hroom _ (hasBytes_iff.1 hleft))
  · have hrequire : require count cursor = (.error (.truncated cursor.position), cursor) := if_neg hleft
    have hlift : Metered.lift (require count) cursor =
        ((.error (.truncated cursor.position), cursor), []) := congrArg (·, []) hrequire
    rw [Metered.bind_of_error hlift, hrequire]
    exact ⟨rfl, List.forall_mem_nil _, fun a ha => by cases ha⟩

/-! ### Items in items -/

variable {nested : Metered Value} {reader : Reader Value}

/-- The metered reader of a value reserves room for the arrays and maps in it. -/
def MetersValue (limits : Limits) (m : Metered Value) (r : Reader Value) : Prop :=
  Meters limits m r fun value rooms => rooms = value.rooms

theorem meters_items (h : MetersValue limits nested reader) (count : Nat) (read : List Value) :
    Meters limits (Metered.items nested count read) (items reader count read) fun values rooms =>
      ∃ new, values = read.reverse ++ new ∧ new.length = count ∧ rooms = Value.roomsItems new := by
  induction count generalizing read with
  | zero => exact meters_pure ⟨[], (List.append_nil _).symm, rfl, rfl⟩
  | succ count ih =>
    refine h.bind (fun value => ih (value :: read)) ?_
    rintro value _ _ _ rfl ⟨new, rfl, hlength, rfl⟩
    exact ⟨value :: new, by simp, congrArg Nat.succ hlength, rfl⟩

theorem meters_entries (h : MetersValue limits nested reader) (count : Nat) (read : List (Value × Value)) :
    Meters limits (Metered.entries nested count read) (entries reader count read) fun all rooms =>
      ∃ new, all = read.reverse ++ new ∧ new.length = count ∧ rooms = Value.roomsEntries new := by
  induction count generalizing read with
  | zero => exact meters_pure ⟨[], (List.append_nil _).symm, rfl, rfl⟩
  | succ count ih =>
    refine Meters.lift_bind fun offset => ?_
    refine h.bind (N := fun key all rooms => ∃ value new,
      all = read.reverse ++ (key, value) :: new ∧ new.length = count ∧
        rooms = value.rooms ++ Value.roomsEntries new) (fun key => ?_) ?_
    · split
      · exact meters_fail _
      · refine h.bind (fun value => ih ((key, value) :: read)) ?_
        rintro value _ _ _ rfl ⟨new, rfl, hlength, rfl⟩
        exact ⟨value, new, by simp, hlength, rfl⟩
    · rintro key _ _ _ rfl ⟨value, new, rfl, hlength, rfl⟩
      exact ⟨(key, value) :: new, rfl, congrArg Nat.succ hlength, rfl⟩

theorem meters_content (h : MetersValue limits nested reader) (major argument offset : Nat) :
    MetersValue limits (Metered.content limits nested major argument offset)
      (content limits reader major argument offset) := by
  match major with
  | 0 => exact meters_pure rfl
  | 1 => exact meters_pure rfl
  | 2 => exact Meters.map (meters_lift (Q := fun _ rooms => rooms = []) fun _ _ _ => rfl) Value.bytes fun _ _ => id
  | 3 =>
    refine Meters.lift_bind fun bytes => ?_
    cases Utf8.decode? bytes with
    | none => exact meters_fail _
    | some text => exact meters_pure rfl
  | 4 =>
    refine (meters_requireRoom argument (.items argument) fun unread hle => hle).bind
      (fun _ => (meters_items h argument []).map Value.array (T := fun value rooms =>
        .items argument :: rooms = value.rooms) ?_) ?_
    · rintro _ _ ⟨new, rfl, rfl, rfl⟩
      rfl
    · rintro _ value _ back rfl hback
      exact hback
  | 5 =>
    show Meters limits (if argument > limits.maxMapEntries then _ else _)
      (if argument > limits.maxMapEntries then _ else _) _
    -- a map with too many entries is refused before room is reserved for it
    split
    · exact meters_fail _
    · next hfew =>
      have hroom : ∀ unread, 2 * argument ≤ unread →
          Reservation.Fits limits ⟨.entries argument, unread⟩ :=
        fun unread hle => ⟨hle, Nat.le_of_not_gt hfew⟩
      refine (meters_requireRoom _ _ hroom).bind
        (fun _ => (meters_entries h argument []).map Value.map (T := fun value rooms =>
          .entries argument :: rooms = value.rooms) ?_) ?_
      · rintro _ _ ⟨new, rfl, rfl, rfl⟩
        rfl
      · rintro _ value _ back rfl hback
        exact hback
  | _ + 6 => exact Meters.map h (Value.tag argument) fun _ _ => id

theorem meters_simple (number offset : Nat) :
    MetersValue limits (Metered.lift (simple number offset)) (simple number offset) := by
  refine meters_lift fun cursor value hv => ?_
  obtain ⟨_, ⟨hs, _⟩, _⟩ := (recognizes_simple number offset cursor _ value).1 (Prod.ext hv rfl)
  cases hs <;> rfl

/-- The metered reader of data items does what the reader does; what it reserves is within the input, and on success it
is room for the arrays and maps that were read. -/
theorem meters_item (limits : Limits) (levels : Nat) :
    MetersValue limits (Metered.item limits levels) (item limits levels) := by
  induction levels with
  | zero => exact meters_fail _
  | succ levels ih =>
    refine Meters.lift_bind fun offset => Meters.lift_bind fun head => ?_
    show Meters limits (if head.toNat / 32 = 7 then _ else _) (if head.toNat / 32 = 7 then _ else _) _
    split
    · split
      · exact meters_simple _ _
      · split
        · exact Meters.lift_bind fun number => meters_simple _ _
        · exact meters_fail _
    · exact Meters.lift_bind fun argument => meters_content ih _ _ _

end Meters

/-! ### Decoders -/

/-- Reading the next item of a decoder does not cost more than the input allows. A value has at most as many nodes and
string bytes, together, as bytes were read for it. Room is reserved for all arrays and maps in it, and with success or
not room for an array is never for more elements than there are unread bytes, nor room for a map for more entries than
the limit or half the unread bytes. -/
theorem next_stays_within_input (decoder : Decoder) :
    (∀ value, decoder.next.1 = .ok value →
      decoder.position + (value.nodes + value.stringBytes) ≤ decoder.next.2.position) ∧
    decoder.nextMetered.1 = decoder.next ∧
    (∀ value, decoder.next.1 = .ok value →
      decoder.nextMetered.2.map Reservation.room = value.rooms) ∧
    (∀ count unread, ⟨.items count, unread⟩ ∈ decoder.nextMetered.2 → count ≤ unread) ∧
    ∀ count unread, ⟨.entries count, unread⟩ ∈ decoder.nextMetered.2 →
      2 * count ≤ unread ∧ count ≤ decoder.limits.maxMapEntries := by
  obtain ⟨hsame, hfits, hrooms⟩ := meters_item decoder.limits decoder.limits.maxDepth decoder.cursor
  refine ⟨fun value hv => ?_, ?_, hrooms, fun count unread h => hfits _ h, fun count unread h => hfits _ h⟩
  · obtain ⟨bytes, ha, _, hposition⟩ :=
      (recognizes_item decoder.limits decoder.limits.maxDepth decoder.cursor _ value).1 (Prod.ext hv rfl)
    show decoder.cursor.position + _ ≤ _
    have hsize := ha.1.size_le
    calc decoder.cursor.position + (value.nodes + value.stringBytes)
        ≤ decoder.cursor.position + bytes.length := Nat.add_le_add_left hsize _
      _ = _ := hposition.symm
  · exact congrArg (fun result : Except Error Value × Cursor => (result.1, Decoder.mk decoder.limits result.2)) hsame

/-- Room for an array and for the map in it is kept when the array turns out to be cut short; for a map of more entries
than can follow, none is reserved. -/
example :
    (Decoder.mk {} ⟨[0x83, 0xa1, 0x00, 0x01], 0⟩).nextMetered.2 = [⟨.items 3, 3⟩, ⟨.entries 1, 2⟩] ∧
      (Decoder.mk {} ⟨[0x81, 0xb8, 0x40, 0x00], 0⟩).nextMetered.2 = [⟨.items 1, 3⟩] :=
  ⟨rfl, rfl⟩

end WebAuthn.Cbor
