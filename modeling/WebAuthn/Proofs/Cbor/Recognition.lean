import WebAuthn.Proofs.Cbor.Grammar
import WebAuthn.Proofs.Cbor.Lockstep

/-!
# What the CBOR reader accepts

A reader recognizes a language if it succeeds exactly on the bytes of the language and stops behind them, whatever
follows. The reader of data items recognizes the grammar: its checks of declared counts against what is left refuse
nothing that the grammar admits.

* `Reader.Recognizes` — the language of a reader; one lemma for each combinator and each step of the reader;
* `Reader.Advances` — how far a reader gets, with success or not; kept by the steps that all readers are made of;
* `recognizes_content`, `recognizes_item` — the language of the reader of data items, by induction on the levels;
* `Decoder.Reached` — a decoder of an input, after any number of items were asked for;
* `next_eq_ok_iff`, `start_next_iff`, `decode_eq_ok_iff` — what is read from a decoder, from the front of an input, and
  from a whole input;
* `decoder_recognizes_grammar` — both, and that what is read is determined by the input.
-/

namespace WebAuthn.Cbor

/-! ### Languages of readers -/

namespace Reader

variable {α β : Type} {L M : α → Bytes → Prop}

/-- The reader succeeds exactly on the bytes of the language, and stops behind them. -/
def Recognizes (r : Reader α) (L : α → Bytes → Prop) : Prop :=
  ∀ (cursor after : Cursor) (a : α), r cursor = (.ok a, after) ↔
    ∃ bytes, L a bytes ∧ cursor.rest = bytes ++ after.rest ∧
      after.position = cursor.position + bytes.length

theorem Recognizes.congr {r : Reader α} (h : r.Recognizes L) (hLM : ∀ a bytes, L a bytes ↔ M a bytes) :
    r.Recognizes M := by
  intro cursor after a
  rw [h cursor after a]
  simp only [hLM]

theorem recognizes_pure (a : α) :
    (pure a : Reader α).Recognizes fun b bytes => b = a ∧ bytes = [] := by
  intro cursor after b
  obtain ⟨rest, position⟩ := cursor
  obtain ⟨rest', position'⟩ := after
  show ((.ok a, _) : Except Error α × Cursor) = _ ↔ _
  simp only [Prod.mk.injEq, Except.ok.injEq, Cursor.mk.injEq]
  constructor
  · intro h
    obtain ⟨rfl, rfl, rfl⟩ := h
    exact ⟨[], ⟨rfl, rfl⟩, rfl, rfl⟩
  · intro h
    obtain ⟨_, ⟨rfl, rfl⟩, rfl, rfl⟩ := h
    exact ⟨rfl, rfl, rfl⟩

theorem recognizes_fail (error : Error) : (fail error : Reader α).Recognizes fun _ _ => False := by
  intro cursor after a
  simp [fail]

theorem bind_eq_ok {r : Reader α} {next : α → Reader β} {cursor after : Cursor} {b : β} :
    (r >>= next) cursor = (.ok b, after) ↔
      ∃ a middle, r cursor = (.ok a, middle) ∧ next a middle = (.ok b, after) := by
  rcases hr : r cursor with ⟨result, middle⟩
  cases result with
  | error e =>
    rw [bind_of_error hr]
    constructor
    · intro h
      cases h
    · intro h
      obtain ⟨_, _, hr', _⟩ := h
      cases hr'
  | ok a =>
    rw [bind_of_ok hr]
    constructor
    · intro h
      exact ⟨a, middle, rfl, h⟩
    · intro h
      obtain ⟨_, _, hr', h⟩ := h
      cases hr'
      exact h

/-- Readers in order recognize what the first one recognizes, followed by what the next one does. -/
theorem Recognizes.bind {r : Reader α} {next : α → Reader β} {N : α → β → Bytes → Prop}
    (h : r.Recognizes L) (hn : ∀ a, (next a).Recognizes (N a)) :
    (r >>= next).Recognizes fun b bytes =>
      ∃ a front back, bytes = front ++ back ∧ L a front ∧ N a b back := by
  intro cursor after b
  rw [bind_eq_ok]
  constructor
  · intro hr
    obtain ⟨a, middle, ha, hb⟩ := hr
    obtain ⟨front, hL, hrest, hposition⟩ := (h _ _ _).1 ha
    obtain ⟨back, hN, hrest', hposition'⟩ := (hn a _ _ _).1 hb
    refine ⟨front ++ back, ⟨a, front, back, rfl, hL, hN⟩, ?_, ?_⟩
    · rw [hrest, hrest', List.append_assoc]
    · rw [hposition', hposition, List.length_append, Nat.add_assoc]
  · intro hr
    obtain ⟨_, ⟨a, front, back, rfl, hL, hN⟩, hrest, hposition⟩ := hr
    refine ⟨a, ⟨back ++ after.rest, cursor.position + front.length⟩, ?_, ?_⟩
    · exact (h _ _ _).2 ⟨front, hL, by rw [hrest, List.append_assoc], rfl⟩
    · refine (hn a _ _ _).2 ⟨back, hN, rfl, ?_⟩
      rw [hposition, List.length_append, Nat.add_assoc]

theorem Recognizes.map {r : Reader α} (h : r.Recognizes L) (f : α → β) :
    (f <$> r).Recognizes fun b bytes => ∃ a, b = f a ∧ L a bytes := by
  refine (h.bind fun a => recognizes_pure (f a)).congr fun b bytes => ?_
  constructor
  · intro hb
    obtain ⟨a, front, _, rfl, hL, rfl, rfl⟩ := hb
    exact ⟨a, rfl, by rwa [List.append_nil]⟩
  · intro hb
    obtain ⟨a, rfl, hL⟩ := hb
    exact ⟨a, bytes, [], (List.append_nil _).symm, hL, rfl, rfl⟩

/-- Where a reader stands does not matter to what it recognizes. -/
theorem recognizes_position_bind {f : Nat → Reader α} (h : ∀ p, (f p).Recognizes L) :
    (position >>= f).Recognizes L := by
  intro cursor after a
  exact h cursor.position cursor after a

/-- A check for bytes that every encoding has anyway refuses none. -/
theorem recognizes_require_bind {r : Reader α} {count : Nat} (h : r.Recognizes L)
    (hcount : ∀ a bytes, L a bytes → count ≤ bytes.length) :
    (require count >>= fun _ => r).Recognizes L := by
  intro cursor after a
  rw [bind_eq_ok, ← h cursor after a]
  unfold require
  constructor
  · intro hr
    obtain ⟨_, middle, hm, hr⟩ := hr
    split at hm
    · cases hm
      exact hr
    · cases hm
  · intro hr
    obtain ⟨bytes, hL, hrest, _⟩ := (h cursor after a).1 hr
    have hlong : count ≤ cursor.rest.length := by
      rw [hrest, List.length_append]
      exact Nat.le_add_right_of_le (hcount a bytes hL)
    exact ⟨(), cursor, by rw [if_pos (hasBytes_iff.2 hlong)], hr⟩

theorem recognizes_guard {r : Reader α} (h : r.Recognizes L) (p : Prop) [Decidable p] (error : Error) :
    (if p then fail error else r : Reader α).Recognizes fun a bytes => ¬ p ∧ L a bytes := by
  split
  · next hp => exact (recognizes_fail error).congr fun a bytes => ⟨False.elim, fun ha => ha.1 hp⟩
  · next hp => exact h.congr fun a bytes => ⟨fun ha => ⟨hp, ha⟩, fun ha => ha.2⟩

/-- What is recognized is determined by the bytes, whatever follows. -/
theorem Recognizes.unique {r : Reader α} (h : r.Recognizes L) {a b : α} {front front' rest rest' : Bytes}
    (ha : L a front) (hb : L b front') (he : front ++ rest = front' ++ rest') :
    a = b ∧ front = front' := by
  have hra := (h ⟨front ++ rest, 0⟩ ⟨rest, 0 + front.length⟩ a).2 ⟨front, ha, rfl, rfl⟩
  have hrb := (h ⟨front ++ rest, 0⟩ ⟨rest', 0 + front'.length⟩ b).2 ⟨front', hb, he, rfl⟩
  rw [hra] at hrb
  obtain ⟨hab, hcursor⟩ := Prod.mk.inj hrb
  obtain ⟨hrest, _⟩ := Cursor.mk.inj hcursor
  rw [hrest] at he
  exact ⟨Except.ok.inj hab, List.append_cancel_right he⟩

/-! ### How far readers get -/

/-- With success or not, the reader stops behind some of the bytes before it. -/
def Advances (r : Reader α) : Prop :=
  ∀ cursor, ∃ bytes, cursor.rest = bytes ++ (r cursor).2.rest ∧
    (r cursor).2.position = cursor.position + bytes.length

theorem advances_stay {r : Reader α} (h : ∀ cursor, (r cursor).2 = cursor) : r.Advances := by
  intro cursor
  rw [h cursor]
  exact ⟨[], rfl, rfl⟩

theorem Advances.bind {r : Reader α} {next : α → Reader β} (h : r.Advances)
    (hn : ∀ a, (next a).Advances) : (r >>= next).Advances := by
  intro cursor
  obtain ⟨front, hrest, hposition⟩ := h cursor
  rcases hcursor : r cursor with ⟨result, middle⟩
  rw [hcursor] at hrest hposition
  cases result with
  | error e =>
    rw [bind_of_error hcursor]
    exact ⟨front, hrest, hposition⟩
  | ok a =>
    rw [bind_of_ok hcursor]
    obtain ⟨back, hrest', hposition'⟩ := hn a middle
    refine ⟨front ++ back, ?_, ?_⟩
    · rw [hrest, hrest', List.append_assoc]
    · rw [hposition', hposition, List.length_append, Nat.add_assoc]

theorem advances_fail (error : Error) : (fail error : Reader α).Advances :=
  advances_stay fun _ => rfl

end Reader

open Reader

/-! ### Bytes -/

theorem recognizes_takeByte : takeByte.Recognizes fun b bytes => bytes = [b] := by
  intro cursor after b
  obtain ⟨rest, position⟩ := cursor
  obtain ⟨rest', position'⟩ := after
  cases rest with
  | nil => simp [takeByte]
  | cons head tail =>
    simp only [takeByte, Prod.mk.injEq, Except.ok.injEq, Cursor.mk.injEq]
    constructor
    · intro h
      obtain ⟨rfl, rfl, rfl⟩ := h
      exact ⟨[head], rfl, rfl, rfl⟩
    · intro h
      obtain ⟨_, rfl, hr, rfl⟩ := h
      obtain ⟨rfl, rfl⟩ := List.cons.inj hr
      exact ⟨rfl, rfl, rfl⟩

/-- A byte and what follows it. -/
theorem recognizes_takeByte_bind {α : Type} {L : α → Bytes → Prop} {f : UInt8 → Reader α}
    (hnil : ∀ a, ¬ L a []) (h : ∀ b, (f b).Recognizes fun a bytes => L a (b :: bytes)) :
    (takeByte >>= f).Recognizes L := by
  refine (recognizes_takeByte.bind h).congr fun a bytes => ?_
  constructor
  · intro ha
    obtain ⟨b, _, back, rfl, rfl, hL⟩ := ha
    exact hL
  · intro hL
    cases bytes with
    | nil => exact absurd hL (hnil a)
    | cons b back => exact ⟨b, [b], back, rfl, rfl, hL⟩

theorem advances_takeByte : takeByte.Advances := by
  intro cursor
  obtain ⟨rest, position⟩ := cursor
  cases rest with
  | nil => exact ⟨[], rfl, rfl⟩
  | cons head tail => exact ⟨[head], rfl, rfl⟩

theorem recognizes_take (count : Nat) :
    (take count).Recognizes fun content bytes => bytes = content ∧ content.length = count := by
  intro cursor after content
  obtain ⟨rest, position⟩ := cursor
  obtain ⟨rest', position'⟩ := after
  unfold take
  split
  · next h =>
    have hlong := hasBytes_iff.1 h
    simp only [Prod.mk.injEq, Except.ok.injEq, Cursor.mk.injEq]
    constructor
    · intro hr
      obtain ⟨rfl, rfl, rfl⟩ := hr
      have hlength : (rest.take count).length = count := List.length_take_of_le hlong
      exact ⟨_, ⟨rfl, hlength⟩, (List.take_append_drop count rest).symm, by rw [hlength]⟩
    · intro hr
      obtain ⟨_, ⟨rfl, rfl⟩, rfl, rfl⟩ := hr
      exact ⟨List.take_left, List.drop_left, rfl⟩
  · next h =>
    simp only [Prod.mk.injEq, reduceCtorEq, false_and, false_iff]
    rintro ⟨_, ⟨rfl, rfl⟩, rfl, _⟩
    exact h (hasBytes_iff.2 (by rw [List.length_append]; exact Nat.le_add_right _ _))

theorem advances_take (count : Nat) : (take count).Advances := by
  intro cursor
  unfold take
  split
  · next h =>
    refine ⟨cursor.rest.take count, (List.take_append_drop count cursor.rest).symm, ?_⟩
    rw [List.length_take_of_le (hasBytes_iff.1 h)]
  · exact ⟨[], rfl, rfl⟩

theorem advances_require (count : Nat) : (require count).Advances :=
  advances_stay fun cursor => by unfold require; split <;> rfl

/-! ### Heads -/

theorem recognizes_simple (number offset : Nat) :
    (simple number offset).Recognizes fun value bytes => Simple number value ∧ bytes = [] := by
  unfold simple
  split
  · exact (recognizes_pure _).congr fun value bytes =>
      and_congr_left fun _ => ⟨fun h => h ▸ .false, fun h => by cases h; rfl⟩
  · exact (recognizes_pure _).congr fun value bytes =>
      and_congr_left fun _ => ⟨fun h => h ▸ .true, fun h => by cases h; rfl⟩
  · exact (recognizes_pure _).congr fun value bytes =>
      and_congr_left fun _ => ⟨fun h => h ▸ .null, fun h => by cases h; rfl⟩
  · next hfalse htrue hnull =>
    refine (recognizes_fail _).congr fun value bytes => ⟨False.elim, fun h => ?_⟩
    cases h.1 with
    | false => exact hfalse rfl
    | true => exact htrue rfl
    | null => exact hnull rfl

/-- A number in the bytes after the head. -/
theorem recognizes_number {info width : Nat}
    (h : (info, width) ∈ argumentWidths) :
    (Bytes.toNat <$> take width).Recognizes fun n bytes => Argument info n bytes := by
  refine ((recognizes_take width).map Bytes.toNat).congr fun n bytes => ?_
  constructor
  · intro hn
    obtain ⟨content, rfl, rfl, rfl⟩ := hn
    have ha := Argument.following h (Bytes.toNat_lt bytes)
    rwa [Bytes.ofNat_toNat] at ha
  · intro ha
    have hwidth := mem_argumentWidths.1 h
    cases ha with
    | immediate hlt => omega
    | @following other _ h' hlt =>
      have hother := mem_argumentWidths.1 h'
      obtain rfl : other = width := by omega
      exact ⟨_, (Bytes.toNat_ofNat_of_lt hlt).symm, rfl, Bytes.ofNat_length _ _⟩

theorem recognizes_argument (major info offset : Nat) :
    (argument major info offset).Recognizes fun n bytes => Argument info n bytes := by
  unfold argument
  split
  · exact recognizes_number (by decide)
  · exact recognizes_number (by decide)
  · exact recognizes_number (by decide)
  · exact recognizes_number (by decide)
  · refine (recognizes_fail _).congr fun n bytes => ⟨False.elim, fun h => ?_⟩
    exact absurd h.info_lt (by decide)
  · next h1 h2 h4 h8 _ =>
    -- what is left are the arguments that stand in the head, and the reserved numbers
    split
    · next hi =>
      refine (recognizes_pure info).congr fun n bytes => ?_
      constructor
      · intro h
        obtain ⟨rfl, rfl⟩ := h
        exact .immediate hi
      · intro h
        cases h with
        | immediate _ => exact ⟨rfl, rfl⟩
        | following h _ =>
          have hwidth := mem_argumentWidths.1 h
          omega
    · next hi =>
      refine (recognizes_fail _).congr fun n bytes => ⟨False.elim, fun h => ?_⟩
      cases h with
      | immediate h => exact hi h
      | following h _ =>
        obtain ⟨h, _⟩ | ⟨h, _⟩ | ⟨h, _⟩ | ⟨h, _⟩ := mem_argumentWidths.1 h
        · exact h1 h
        · exact h2 h
        · exact h4 h
        · exact h8 h

/-! ### Contents -/

section Contents

variable {nested : Reader Value} {L : Value → Bytes → Prop} {argument : Nat} {value : Value}
  {body : Bytes}

theorem recognizes_items (h : nested.Recognizes L) (count : Nat) (read : List Value) :
    (items nested count read).Recognizes fun values bytes =>
      ∃ new, values = read.reverse ++ new ∧ new.length = count ∧ Row L new bytes := by
  induction count generalizing read with
  | zero =>
    refine (recognizes_pure read.reverse).congr fun values bytes => ?_
    constructor
    · intro hv
      obtain ⟨rfl, rfl⟩ := hv
      exact ⟨[], (List.append_nil _).symm, rfl, .nil⟩
    · intro hv
      obtain ⟨new, rfl, hlength, hrow⟩ := hv
      obtain rfl := List.length_eq_zero_iff.1 hlength
      cases hrow
      exact ⟨List.append_nil _, rfl⟩
  | succ count ih =>
    refine (h.bind fun value => ih (value :: read)).congr fun values bytes => ?_
    constructor
    · intro hv
      obtain ⟨value, front, back, rfl, hL, new, rfl, hlength, hrow⟩ := hv
      exact ⟨value :: new, by simp, congrArg Nat.succ hlength, .cons hL hrow⟩
    · intro hv
      obtain ⟨new, rfl, hlength, hrow⟩ := hv
      cases hrow with
      | nil => cases hlength
      | @cons value new front back hL hrow =>
        exact ⟨value, front, back, rfl, hL, new, by simp, Nat.succ.inj hlength, hrow⟩

/-- The keys of the entries differ from each other and from the ones before them. -/
def FreshKeys (read new : List (Value × Value)) : Prop :=
  (new.map Prod.fst).Nodup ∧ ∀ entry ∈ new, ∀ earlier ∈ read, earlier.1 ≠ entry.1

theorem freshKeys_cons {read new : List (Value × Value)} {key value : Value} :
    FreshKeys read ((key, value) :: new) ↔
      (∀ earlier ∈ read, earlier.1 ≠ key) ∧ FreshKeys ((key, value) :: read) new := by
  simp only [FreshKeys, List.map_cons, List.nodup_cons, List.forall_mem_cons, List.mem_map,
    not_exists, not_and]
  constructor
  · intro h
    obtain ⟨⟨hkey, hn⟩, hfresh, hnew⟩ := h
    exact ⟨hfresh, hn, fun entry he => ⟨fun hsame => hkey entry he hsame.symm, hnew entry he⟩⟩
  · intro h
    obtain ⟨hfresh, hn, hnew⟩ := h
    exact ⟨⟨fun entry he hsame => (hnew entry he).1 hsame.symm, hn⟩, hfresh,
      fun entry he => (hnew entry he).2⟩

theorem recognizes_entries (h : nested.Recognizes L) (count : Nat) (read : List (Value × Value)) :
    (entries nested count read).Recognizes fun all bytes =>
      ∃ new, all = read.reverse ++ new ∧ new.length = count ∧ PairRow L new bytes ∧
        FreshKeys read new := by
  induction count generalizing read with
  | zero =>
    refine (recognizes_pure read.reverse).congr fun all bytes => ?_
    constructor
    · intro hv
      obtain ⟨rfl, rfl⟩ := hv
      exact ⟨[], (List.append_nil _).symm, rfl, .nil, .nil, by simp⟩
    · intro hv
      obtain ⟨new, rfl, hlength, hrow, _⟩ := hv
      obtain rfl := List.length_eq_zero_iff.1 hlength
      cases hrow
      exact ⟨List.append_nil _, rfl⟩
  | succ count ih =>
    refine recognizes_position_bind fun offset => ?_
    refine (h.bind fun key => recognizes_guard
      (h.bind fun value => ih ((key, value) :: read)) _ _).congr fun all bytes => ?_
    have hfresh : ∀ key, ¬ (read.any fun entry => decide (entry.1 = key)) = true ↔
        ∀ earlier ∈ read, earlier.1 ≠ key := by
      intro key
      simp only [List.any_eq_true, decide_eq_true_eq, not_exists, not_and, ne_eq]
    simp only [hfresh]
    constructor
    · intro hv
      obtain ⟨key, front, _, rfl, hk, hkey, value, middle, back, rfl, hv, new, rfl, hlength, hrow,
        hnew⟩ := hv
      exact ⟨(key, value) :: new, by simp, congrArg Nat.succ hlength, .cons hk hv hrow,
        freshKeys_cons.2 ⟨hkey, hnew⟩⟩
    · intro hv
      obtain ⟨new, rfl, hlength, hrow, hnew⟩ := hv
      cases hrow with
      | nil => cases hlength
      | @cons key value new front middle back hk hv hrow =>
        obtain ⟨hkey, hnew⟩ := freshKeys_cons.1 hnew
        exact ⟨key, front, _, rfl, hk, hkey, value, middle, back, rfl, hv, new, by simp,
          Nat.succ.inj hlength, hrow, hnew⟩

theorem recognizes_text (offset : Nat) :
    (do
      let bytes ← take argument
      match Utf8.decode? bytes with
      | some text => pure (.text text)
      | none => fail (.invalidUtf8 offset) : Reader Value).Recognizes fun value body =>
        ∃ content, value = .text content ∧ body = Utf8.encode content ∧ body.length = argument := by
  have hdecode : ∀ bytes : Bytes,
      (match Utf8.decode? bytes with
      | some text => pure (.text text)
      | none => fail (.invalidUtf8 offset) : Reader Value).Recognizes fun value rest =>
        ∃ content, value = .text content ∧ bytes = Utf8.encode content ∧ rest = [] := by
    intro bytes
    split
    · next text ht =>
      have hbytes := Utf8.decode?_eq_some_iff.1 ht
      refine (recognizes_pure _).congr fun value rest => ?_
      constructor
      · intro hv
        exact ⟨text, hv.1, hbytes, hv.2⟩
      · intro hv
        obtain ⟨content, rfl, hc, rfl⟩ := hv
        rw [Utf8.encode_injective (hbytes.symm.trans hc)]
        exact ⟨rfl, rfl⟩
    · next ht =>
      refine (recognizes_fail _).congr fun value rest => ⟨False.elim, fun hv => ?_⟩
      obtain ⟨content, _, hc, _⟩ := hv
      rw [Utf8.decode?_eq_some_iff.2 hc] at ht
      cases ht
  refine ((recognizes_take argument).bind hdecode).congr fun value body => ?_
  constructor
  · intro hv
    obtain ⟨_, front, _, rfl, ⟨rfl, hlength⟩, content, rfl, rfl, rfl⟩ := hv
    exact ⟨content, rfl, List.append_nil _, by rwa [List.append_nil]⟩
  · intro hv
    obtain ⟨content, rfl, rfl, hlength⟩ := hv
    exact ⟨_, _, [], (List.append_nil _).symm, ⟨rfl, hlength⟩, content, rfl, rfl, rfl⟩

theorem recognizes_array (h : nested.Recognizes L)
    (hpos : ∀ value bytes, L value bytes → 0 < bytes.length) :
    (require argument >>= fun _ => Value.array <$> items nested argument []).Recognizes
      fun value body => ∃ list, value = .array list ∧ list.length = argument ∧ Row L list body := by
  refine recognizes_require_bind ?_ fun value body hv => ?_
  · refine ((recognizes_items h argument []).map Value.array).congr fun value body => ?_
    constructor
    · intro hv
      obtain ⟨_, rfl, list, he, hlength, hrow⟩ := hv
      exact ⟨list, congrArg Value.array he, hlength, hrow⟩
    · intro hv
      obtain ⟨list, rfl, hlength, hrow⟩ := hv
      exact ⟨list, rfl, list, rfl, hlength, hrow⟩
  · obtain ⟨list, _, rfl, hrow⟩ := hv
    exact hrow.length_le hpos

theorem recognizes_map (h : nested.Recognizes L)
    (hpos : ∀ value bytes, L value bytes → 0 < bytes.length) :
    (require (2 * argument) >>= fun _ => Value.map <$> entries nested argument []).Recognizes
      fun value body => ∃ list, value = .map list ∧ list.length = argument ∧ PairRow L list body ∧
        (list.map Prod.fst).Nodup := by
  refine recognizes_require_bind ?_ fun value body hv => ?_
  · refine ((recognizes_entries h argument []).map Value.map).congr fun value body => ?_
    constructor
    · intro hv
      obtain ⟨_, rfl, list, he, hlength, hrow, hfresh⟩ := hv
      exact ⟨list, congrArg Value.map he, hlength, hrow, hfresh.1⟩
    · intro hv
      obtain ⟨list, rfl, hlength, hrow, hn⟩ := hv
      exact ⟨list, rfl, list, rfl, hlength, hrow, hn, by simp⟩
  · obtain ⟨list, _, rfl, hrow, _⟩ := hv
    exact hrow.length_le hpos

/-- What follows a head is recognized, if nested items are and take at least one byte each. -/
theorem recognizes_content (h : nested.Recognizes L)
    (hpos : ∀ value bytes, L value bytes → 0 < bytes.length) (limits : Limits) {major : Nat}
    (hm : major < 7) (argument offset : Nat) :
    (content limits nested major argument offset).Recognizes fun value body =>
      Content L major argument value body ∧
        ∀ entries, value = .map entries → Value.DistinctKeys limits.maxMapEntries entries := by
  unfold content
  split
  · refine (recognizes_pure _).congr fun value body => ⟨fun hv => ?_, fun hv => ?_⟩
    · obtain ⟨rfl, rfl⟩ := hv
      exact ⟨.unsigned, by simp⟩
    · cases hv.1
      exact ⟨rfl, rfl⟩
  · refine (recognizes_pure _).congr fun value body => ⟨fun hv => ?_, fun hv => ?_⟩
    · obtain ⟨rfl, rfl⟩ := hv
      exact ⟨.negative, by simp⟩
    · cases hv.1
      exact ⟨rfl, rfl⟩
  · refine ((recognizes_take _).map _).congr fun value body => ⟨fun hv => ?_, fun hv => ?_⟩
    · obtain ⟨content, rfl, rfl, rfl⟩ := hv
      exact ⟨.bytes, by simp⟩
    · cases hv.1
      exact ⟨_, rfl, rfl, rfl⟩
  · refine (recognizes_text offset).congr fun value body => ⟨fun hv => ?_, fun hv => ?_⟩
    · obtain ⟨content, rfl, rfl, rfl⟩ := hv
      exact ⟨.text, by simp⟩
    · cases hv.1
      exact ⟨_, rfl, rfl, rfl⟩
  · refine (recognizes_array h hpos).congr fun value body => ⟨fun hv => ?_, fun hv => ?_⟩
    · obtain ⟨list, rfl, rfl, hrow⟩ := hv
      exact ⟨.array hrow, by simp⟩
    · cases hv.1 with
      | array hrow => exact ⟨_, rfl, rfl, hrow⟩
  · refine (recognizes_guard (recognizes_map h hpos) _ _).congr
      fun value body => ⟨fun hv => ?_, fun hv => ?_⟩
    · obtain ⟨hle, list, rfl, rfl, hrow, hn⟩ := hv
      refine ⟨.map hrow, fun entries he => ?_⟩
      cases he
      exact ⟨Nat.le_of_not_gt hle, hn⟩
    · obtain ⟨hc, hd⟩ := hv
      cases hc with
      | map hrow =>
        obtain ⟨hle, hn⟩ := hd _ rfl
        exact ⟨Nat.not_lt.2 hle, _, rfl, rfl, hrow, hn⟩
  · next h0 h1 h2 h3 h4 h5 =>
    simp only [imp_false] at h0 h1 h2 h3 h4 h5
    obtain rfl : major = 6 := by omega
    refine (h.map (Value.tag argument)).congr fun value body => ⟨fun hv => ?_, fun hv => ?_⟩
    · obtain ⟨content, rfl, hL⟩ := hv
      exact ⟨.tag hL, by simp⟩
    · cases hv.1 with
      | tag hL => exact ⟨_, rfl, hL⟩

end Contents

/-! ### Data items -/

/-- An item of major type 7 is a simple value in its head or in the byte after it. -/
theorem recognizes_simpleItem (head : UInt8) (offset : Nat) :
    (if head.toNat % 32 < 24 then simple (head.toNat % 32) offset
      else if head.toNat % 32 = 24 then takeByte >>= fun number => simple number.toNat offset
      else fail (.unsupported (head.toNat / 32) (head.toNat % 32) offset)).Recognizes
        fun value bytes =>
          (Simple (head.toNat % 32) value ∧ bytes = []) ∨
          (head.toNat % 32 = 24 ∧ ∃ number : UInt8, Simple number.toNat value ∧ bytes = [number]) := by
  split
  · next hi =>
    refine (recognizes_simple _ offset).congr fun value bytes => ⟨.inl, fun hs => ?_⟩
    obtain hs | ⟨hinfo, _⟩ := hs
    · exact hs
    · omega
  · next hi =>
    -- from 24 on the number in the head is no simple value
    have hnot : ∀ value, ¬ Simple (head.toNat % 32) value := fun value hs =>
      hi (Nat.lt_succ_of_lt hs.number_bounds.2)
    split
    · next hinfo =>
      refine (recognizes_takeByte.bind fun number => recognizes_simple number.toNat offset).congr
        fun value bytes => ⟨fun hs => ?_, fun hs => ?_⟩
      · obtain ⟨number, _, _, rfl, rfl, hs, rfl⟩ := hs
        exact .inr ⟨hinfo, number, hs, rfl⟩
      · obtain ⟨hs, _⟩ | ⟨_, number, hs, rfl⟩ := hs
        · exact absurd hs (hnot value)
        · exact ⟨number, [number], [], rfl, rfl, hs, rfl⟩
    · next hinfo =>
      refine (recognizes_fail _).congr fun value bytes => ⟨False.elim, fun hs => ?_⟩
      obtain ⟨hs, _⟩ | ⟨h, _⟩ := hs
      · exact hnot value hs
      · exact hinfo h

/-- The reader of data items recognizes the encodings that are within its limits. -/
theorem recognizes_item (limits : Limits) (levels : Nat) :
    (item limits levels).Recognizes (Admitted limits levels) := by
  induction levels with
  | zero =>
    exact (recognizes_fail _).congr fun value bytes =>
      ⟨False.elim, fun h => Value.not_within_zero h.2⟩
  | succ levels ih =>
    have hpos : ∀ value bytes, Admitted limits levels value bytes → 0 < bytes.length :=
      fun value bytes h => h.1.length_pos
    refine recognizes_position_bind fun offset => recognizes_takeByte_bind ?_ fun head => ?_
    · intro value h
      exact Nat.lt_irrefl 0 h.1.length_pos
    show (if head.toNat / 32 = 7 then _ else _ : Reader Value).Recognizes _
    split
    · next hmajor =>
      exact (recognizes_simpleItem head offset).congr fun value bytes =>
        (admitted_cons_iff_simple hmajor).symm
    · next hmajor =>
      have hhead := head.toNat_lt
      have hm : head.toNat / 32 < 7 := by omega
      exact ((recognizes_argument _ _ _).bind fun argument =>
        recognizes_content ih hpos limits hm argument offset).congr fun value bytes =>
          (admitted_cons_iff_item hmajor).symm

/-- Every step of the reader of data items advances. -/
theorem lockstep_advances (limits : Limits) : Lockstep limits fun r _ => r.Advances where
  pure _ := advances_stay fun _ => rfl
  fail := advances_fail
  position := advances_stay fun _ => rfl
  takeByte := advances_takeByte
  take := advances_take
  require := advances_require
  bind := Advances.bind
  refuse _ _ := advances_fail _

theorem advances_item (limits : Limits) (levels : Nat) : (item limits levels).Advances :=
  (lockstep_advances limits).item limits.le_refl (Nat.le_refl levels)

/-! ### Decoders -/

variable {limits : Limits} {input : Bytes} {decoder : Decoder} {value : Value}

/-- A decoder of the input, after any number of items were asked for and read or refused. -/
inductive Decoder.Reached (limits : Limits) (input : Bytes) : Decoder → Prop where
  | start {decoder : Decoder} : Decoder.start limits input = .ok decoder → Reached limits input decoder
  | next {decoder : Decoder} : Reached limits input decoder → Reached limits input decoder.next.2

theorem start_eq_ok_iff :
    Decoder.start limits input = .ok decoder ↔
      input.length ≤ limits.maxLength ∧ decoder = ⟨limits, ⟨input, 0⟩⟩ := by
  unfold Decoder.start
  split
  · next hlong => simp [Nat.not_le.2 hlong]
  · next hlong => simp [Nat.le_of_not_lt hlong, eq_comm]

/-- A decoder stands behind some of its input, and has the rest before it. -/
theorem Decoder.Reached.stands (h : Reached limits input decoder) :
    decoder.limits = limits ∧
      ∃ read, input = read ++ decoder.remaining ∧ decoder.position = read.length := by
  induction h with
  | start h =>
    obtain ⟨_, rfl⟩ := start_eq_ok_iff.1 h
    exact ⟨rfl, [], rfl, rfl⟩
  | @next decoder _ ih =>
    obtain ⟨hl, read, hinput, hposition⟩ := ih
    obtain ⟨bytes, hrest, hnext⟩ :=
      advances_item decoder.limits decoder.limits.maxDepth decoder.cursor
    refine ⟨hl, read ++ bytes, ?_, ?_⟩
    · rw [List.append_assoc]
      exact hinput.trans (congrArg (read ++ ·) hrest)
    · rw [List.length_append, ← hposition]
      exact hnext

/-- A part of the input behind what was read is a part of the rest. -/
theorem extract_iff {P : Bytes → Prop} (read rest : Bytes) (q : Nat) :
    (read.length ≤ q ∧ q ≤ (read ++ rest).length ∧ P ((read ++ rest).extract read.length q)) ↔
      ∃ bytes after, P bytes ∧ rest = bytes ++ after ∧ q = read.length + bytes.length := by
  rw [List.extract_eq_take_drop, List.drop_left]
  constructor
  · intro h
    obtain ⟨hle, hq, hP⟩ := h
    rw [List.length_append] at hq
    refine ⟨_, rest.drop (q - read.length), hP, (List.take_append_drop _ _).symm, ?_⟩
    rw [List.length_take]
    omega
  · intro h
    obtain ⟨bytes, after, hP, rfl, rfl⟩ := h
    refine ⟨Nat.le_add_right _ _, ?_, ?_⟩
    · simp only [List.length_append]
      omega
    · rwa [Nat.add_sub_cancel_left, List.take_left]

theorem extract_append_drop {bytes : Bytes} {p q : Nat} (h : p ≤ q) :
    bytes.extract p q ++ bytes.drop q = bytes.drop p := by
  have hq : bytes.drop q = (bytes.drop p).drop (q - p) := by
    rw [List.drop_drop, Nat.add_sub_cancel' h]
  rw [List.extract_eq_take_drop, hq, List.take_append_drop]

theorem length_extract {bytes : Bytes} {p q : Nat} (h : q ≤ bytes.length) :
    (bytes.extract p q).length = q - p := by
  rw [List.extract_eq_take_drop, List.length_take, List.length_drop]
  omega

/-- What the next item of a decoder is, and where it ends. -/
theorem next_eq_ok_iff (h : Decoder.Reached limits input decoder) {q : Nat} :
    (decoder.next.1 = .ok value ∧ decoder.next.2.position = q) ↔
      decoder.position ≤ q ∧ q ≤ input.length ∧
        Admitted limits limits.maxDepth value (input.extract decoder.position q) := by
  obtain ⟨rfl, read, rfl, hposition⟩ := h.stands
  rw [hposition, extract_iff]
  have hitem := recognizes_item decoder.limits decoder.limits.maxDepth decoder.cursor
  constructor
  · intro hn
    obtain ⟨hv, rfl⟩ := hn
    obtain ⟨bytes, ha, hrest, hnext⟩ :=
      (hitem (item decoder.limits decoder.limits.maxDepth decoder.cursor).2 value).1
        (Prod.ext hv rfl)
    exact ⟨bytes, _, ha, hrest, hnext.trans (congrArg (· + bytes.length) hposition)⟩
  · intro hn
    obtain ⟨bytes, after, ha, hrest, rfl⟩ := hn
    have hr := (hitem ⟨after, decoder.position + bytes.length⟩ value).2 ⟨bytes, ha, hrest, rfl⟩
    refine ⟨congrArg Prod.fst hr, ?_⟩
    rw [← hposition]
    exact congrArg (fun result => result.2.position) hr

/-- What the first item of an input is, and what it leaves. -/
theorem start_next_iff {rest : Bytes} :
    (∃ decoder, Decoder.start limits input = .ok decoder ∧ decoder.next.1 = .ok value ∧
        decoder.next.2.remaining = rest) ↔
      input.length ≤ limits.maxLength ∧
        ∃ front, input = front ++ rest ∧ Admitted limits limits.maxDepth value front := by
  have hitem := recognizes_item limits limits.maxDepth ⟨input, 0⟩
  simp only [start_eq_ok_iff]
  constructor
  · intro h
    obtain ⟨_, ⟨hlong, rfl⟩, hv, rfl⟩ := h
    obtain ⟨front, ha, hrest, _⟩ :=
      (hitem (item limits limits.maxDepth ⟨input, 0⟩).2 value).1 (Prod.ext hv rfl)
    exact ⟨hlong, front, hrest, ha⟩
  · intro h
    obtain ⟨hlong, front, hinput, ha⟩ := h
    have hr := (hitem ⟨rest, 0 + front.length⟩ value).2 ⟨front, ha, hinput, rfl⟩
    exact ⟨_, ⟨hlong, rfl⟩, congrArg Prod.fst hr, congrArg (fun result => result.2.rest) hr⟩

/-- An input that is not too long is one item with nothing after it. -/
theorem decode_eq (h : input.length ≤ limits.maxLength) :
    decode limits input = (do
      let value ← (item limits limits.maxDepth ⟨input, 0⟩).1
      match (item limits limits.maxDepth ⟨input, 0⟩).2.rest with
      | [] => .ok value
      | rest => .error (.trailingBytes rest.length)) := by
  have hstart : Decoder.start limits input = .ok ⟨limits, ⟨input, 0⟩⟩ := start_eq_ok_iff.2 ⟨h, rfl⟩
  rw [decode, hstart]
  rfl

/-- What a whole input is read as. -/
theorem decode_eq_ok_iff :
    decode limits input = .ok value ↔
      input.length ≤ limits.maxLength ∧ Admitted limits limits.maxDepth value input := by
  have hwhole : (∃ front, input = front ++ [] ∧ Admitted limits limits.maxDepth value front) ↔
      Admitted limits limits.maxDepth value input := by simp
  rw [← hwhole, ← start_next_iff]
  unfold decode
  cases Decoder.start limits input with
  | error e => simp [bind, Except.bind]
  | ok decoder =>
    rcases hn : decoder.next with ⟨result, after⟩
    cases result with
    | error e => simp [bind, Except.bind, hn]
    | ok v => cases hr : after.remaining <;> simp [bind, Except.bind, hn, hr]

/-! ### The grammar is what is accepted -/

/-- A decoder reads a data item from its position up to another one if the bytes between them are an encoding of the
item that is within the limits; a whole input is read as an item if all of it is such an encoding and not too long; and
the bytes from a position on are an encoding of at most one item, with one end. -/
theorem decoder_recognizes_grammar (limits : Limits) (input : Bytes) :
    (∀ (decoder : Decoder) (value : Value) (q : Nat), decoder.Reached limits input →
      ((decoder.next.1 = .ok value ∧ decoder.next.2.position = q) ↔
        decoder.position ≤ q ∧ q ≤ input.length ∧
          Encodes value (input.extract decoder.position q) ∧
          value.nesting ≤ limits.maxDepth ∧ value.Keyed limits.maxMapEntries)) ∧
    (∀ value : Value, decode limits input = .ok value ↔
      input.length ≤ limits.maxLength ∧ Encodes value input ∧
        value.nesting ≤ limits.maxDepth ∧ value.Keyed limits.maxMapEntries) ∧
    ∀ (p q q' : Nat) (value value' : Value), p ≤ q → q ≤ input.length → p ≤ q' → q' ≤ input.length →
      Admitted limits limits.maxDepth value (input.extract p q) →
      Admitted limits limits.maxDepth value' (input.extract p q') → value = value' ∧ q = q' := by
  refine ⟨fun decoder value q h => next_eq_ok_iff h, fun value => decode_eq_ok_iff, ?_⟩
  intro p q q' value value' hp hq hp' hq' hv hv'
  have hsame : input.extract p q ++ input.drop q = input.extract p q' ++ input.drop q' :=
    (extract_append_drop hp).trans (extract_append_drop hp').symm
  obtain ⟨hvalue, hbytes⟩ := (recognizes_item limits limits.maxDepth).unique hv hv' hsame
  have hlength := congrArg List.length hbytes
  rw [length_extract hq, length_extract hq'] at hlength
  exact ⟨hvalue, by omega⟩

/-- A decoder that has refused `undefined` reads a map behind it whose key and whose value are not written in the
shortest way. -/
theorem sample_map_admitted :
    ∃ decoder, Decoder.Reached {} [0xf7, 0xa1, 0x18, 0x05, 0x82, 0xf8, 0x15, 0x20] decoder ∧
      decoder.position = 1 ∧
      Encodes (.map [(.int 5, .array [.bool true, .int (-1)])])
        [0xa1, 0x18, 0x05, 0x82, 0xf8, 0x15, 0x20] := by
  let input : Bytes := [0xf7, 0xa1, 0x18, 0x05, 0x82, 0xf8, 0x15, 0x20]
  have hreached : Decoder.Reached {} input (Decoder.next ⟨{}, ⟨input, 0⟩⟩).2 :=
    .next (.start rfl)
  have hread := ((decoder_recognizes_grammar {} input).1 _
    (.map [(.int 5, .array [.bool true, .int (-1)])]) 8 hreached).1 ⟨rfl, rfl⟩
  exact ⟨_, hreached, by decide, hread.2.2.1⟩

end WebAuthn.Cbor
