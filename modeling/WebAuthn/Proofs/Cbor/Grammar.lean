import WebAuthn.Cbor.Error
import WebAuthn.Cbor.Value
import WebAuthn.Proofs.Layout.Bytes
import WebAuthn.Text.Utf8

/-!
# The grammar of CBOR

Which bytes are an encoding of a data item, without a word about how they are read. A head is a byte with a major type
and an additional information; an argument may stand in any of its widths, not only in the shortest one.

* `Argument`, `Content`, `Encodes` — the grammar; `Row` and `PairRow` are encodings one after the other;
* `Value.nesting`, `Value.Keyed` — what the limits bound: the levels of a data item, and the entries of its maps;
* `Admitted` — an encoding of a data item that is within the limits;
* `encodes_cons_iff_item`, `encodes_cons_iff_simple` — the grammar by the first byte;
* `Encodes.induct` — induction on encodings;
* `content_within_iff` — what is within the limits at some level, by what is within them one level below; with it,
  `admitted_cons_iff_item` and `admitted_cons_iff_simple`.
-/

namespace WebAuthn.Cbor

/-! ### Encodings -/

/-- The additional informations that announce an argument after the head, each with the number of its bytes. -/
def argumentWidths : List (Nat × Nat) := [(24, 1), (25, 2), (26, 4), (27, 8)]

/-- The argument that an additional information announces, and the bytes after the head that it stands in. -/
inductive Argument : (info argument : Nat) → Bytes → Prop where
  | immediate {argument : Nat} : argument < 24 → Argument argument argument []
  | following {info width argument : Nat} :
      (info, width) ∈ argumentWidths → argument < Nat.pow 256 width →
      Argument info argument (Bytes.ofNat width argument)

/-- Encodings of several things, one after the other. -/
inductive Row {α : Type} (L : α → Bytes → Prop) : List α → Bytes → Prop where
  | nil : Row L [] []
  | cons {a : α} {rest : List α} {front back : Bytes} :
      L a front → Row L rest back → Row L (a :: rest) (front ++ back)

/-- Encodings of several entries, one after the other, each key before its value. -/
inductive PairRow {α : Type} (L : α → Bytes → Prop) : List (α × α) → Bytes → Prop where
  | nil : PairRow L [] []
  | cons {key value : α} {rest : List (α × α)} {front middle back : Bytes} :
      L key front → L value middle → PairRow L rest back →
      PairRow L ((key, value) :: rest) (front ++ (middle ++ back))

/-- What a major type and an argument mean together with the bytes after them, where nested items are encoded as `L`
says. -/
inductive Content (L : Value → Bytes → Prop) : (major argument : Nat) → Value → Bytes → Prop where
  | unsigned {n : Nat} : Content L 0 n (.int n) []
  | negative {n : Nat} : Content L 1 n (.int (-1 - n)) []
  | bytes {content : Bytes} : Content L 2 content.length (.bytes content) content
  | text {content : String} :
      Content L 3 (Utf8.encode content).length (.text content) (Utf8.encode content)
  | array {items : List Value} {body : Bytes} :
      Row L items body → Content L 4 items.length (.array items) body
  | map {entries : List (Value × Value)} {body : Bytes} :
      PairRow L entries body → Content L 5 entries.length (.map entries) body
  | tag {number : Nat} {content : Value} {body : Bytes} :
      L content body → Content L 6 number (.tag number content) body

/-- The simple values that denote something. -/
inductive Simple : (number : Nat) → Value → Prop where
  | false : Simple 20 (.bool false)
  | true : Simple 21 (.bool true)
  | null : Simple 22 .null

/-- The bytes are an encoding of the data item. -/
inductive Encodes : Value → Bytes → Prop where
  | item {major info argument : Nat} {value : Value} {following body : Bytes} :
      Argument info argument following → Content Encodes major argument value body →
      Encodes value (UInt8.ofNat (32 * major + info) :: (following ++ body))
  | simple {number : Nat} {value : Value} :
      Simple number value → Encodes value [UInt8.ofNat (224 + number)]
  | simpleFollowing {number : Nat} {value : Value} :
      Simple number value → Encodes value [0xf8, UInt8.ofNat number]

/-! ### Limits -/

namespace Value

mutual
/-- The levels of nesting: a scalar is one level, and every array, map and tag is one level more than its contents. -/
def nesting : Value → Nat
  | .array items => nestingItems items + 1
  | .map entries => nestingEntries entries + 1
  | .tag _ content => nesting content + 1
  | _ => 1

def nestingItems : List Value → Nat
  | [] => 0
  | value :: rest => max (nesting value) (nestingItems rest)

def nestingEntries : List (Value × Value) → Nat
  | [] => 0
  | (key, value) :: rest => max (max (nesting key) (nesting value)) (nestingEntries rest)
end

/-- There are not more entries than the limit, and no two of them have the same key. -/
def DistinctKeys (limit : Nat) (entries : List (Value × Value)) : Prop :=
  entries.length ≤ limit ∧ (entries.map Prod.fst).Nodup

mutual
/-- Every map in the data item has distinct keys, and not more than the limit. -/
def Keyed (limit : Nat) : Value → Prop
  | .array items => KeyedItems limit items
  | .map entries => DistinctKeys limit entries ∧ KeyedEntries limit entries
  | .tag _ content => Keyed limit content
  | _ => True

def KeyedItems (limit : Nat) : List Value → Prop
  | [] => True
  | value :: rest => Keyed limit value ∧ KeyedItems limit rest

def KeyedEntries (limit : Nat) : List (Value × Value) → Prop
  | [] => True
  | (key, value) :: rest => (Keyed limit key ∧ Keyed limit value) ∧ KeyedEntries limit rest
end

/-- The data item has at most so many levels, and its maps are within the limits. -/
def Within (limits : Limits) (levels : Nat) (value : Value) : Prop :=
  value.nesting ≤ levels ∧ value.Keyed limits.maxMapEntries

end Value

/-- The bytes are an encoding of the data item, which is within the limits. -/
def Admitted (limits : Limits) (levels : Nat) (value : Value) (bytes : Bytes) : Prop :=
  Encodes value bytes ∧ value.Within limits levels

/-! ### Rows -/

section Rows

variable {α : Type} {L : α → Bytes → Prop} {P : α → Prop} {bytes : Bytes}

theorem Row.and_iff {list : List α} :
    Row (fun a bytes => L a bytes ∧ P a) list bytes ↔ Row L list bytes ∧ ∀ a ∈ list, P a := by
  constructor
  · intro h
    induction h with
    | nil => exact ⟨.nil, by simp⟩
    | cons ha _ ih => exact ⟨.cons ha.1 ih.1, List.forall_mem_cons.2 ⟨ha.2, ih.2⟩⟩
  · intro h
    obtain ⟨h, hp⟩ := h
    induction h with
    | nil => exact .nil
    | cons ha _ ih =>
      obtain ⟨hhead, htail⟩ := List.forall_mem_cons.1 hp
      exact .cons ⟨ha, hhead⟩ (ih htail)

theorem PairRow.and_iff {list : List (α × α)} :
    PairRow (fun a bytes => L a bytes ∧ P a) list bytes ↔
      PairRow L list bytes ∧ ∀ entry ∈ list, P entry.1 ∧ P entry.2 := by
  constructor
  · intro h
    induction h with
    | nil => exact ⟨.nil, by simp⟩
    | cons hk hv _ ih =>
      exact ⟨.cons hk.1 hv.1 ih.1, List.forall_mem_cons.2 ⟨⟨hk.2, hv.2⟩, ih.2⟩⟩
  · intro h
    obtain ⟨h, hp⟩ := h
    induction h with
    | nil => exact .nil
    | cons hk hv _ ih =>
      obtain ⟨⟨hkey, hvalue⟩, htail⟩ := List.forall_mem_cons.1 hp
      exact .cons ⟨hk, hkey⟩ ⟨hv, hvalue⟩ (ih htail)

/-- Each of the things takes at least one byte. -/
theorem Row.length_le (hL : ∀ a bytes, L a bytes → 0 < bytes.length) {list : List α}
    (h : Row L list bytes) : list.length ≤ bytes.length := by
  induction h with
  | nil => exact Nat.le_refl 0
  | cons ha _ ih =>
    have hfront := hL _ _ ha
    simp only [List.length_cons, List.length_append]
    omega

/-- Each of the entries takes at least two bytes. -/
theorem PairRow.length_le (hL : ∀ a bytes, L a bytes → 0 < bytes.length) {list : List (α × α)}
    (h : PairRow L list bytes) : 2 * list.length ≤ bytes.length := by
  induction h with
  | nil => exact Nat.le_refl 0
  | cons hk hv _ ih =>
    have hfront := hL _ _ hk
    have hmiddle := hL _ _ hv
    simp only [List.length_cons, List.length_append]
    omega

end Rows

/-! ### What is within the limits -/

namespace Value

variable {limits : Limits} {levels limit : Nat}

theorem nesting_pos (value : Value) : 0 < value.nesting := by
  cases value <;> simp [nesting]

theorem nestingItems_le_iff {items : List Value} :
    nestingItems items ≤ levels ↔ ∀ item ∈ items, item.nesting ≤ levels := by
  induction items with
  | nil => simp [nestingItems]
  | cons item rest ih => rw [nestingItems, Nat.max_le, ih, List.forall_mem_cons]

theorem nestingEntries_le_iff {entries : List (Value × Value)} :
    nestingEntries entries ≤ levels ↔
      ∀ entry ∈ entries, entry.1.nesting ≤ levels ∧ entry.2.nesting ≤ levels := by
  induction entries with
  | nil => simp [nestingEntries]
  | cons entry rest ih =>
    rw [nestingEntries, Nat.max_le, Nat.max_le, ih, List.forall_mem_cons]

theorem keyedItems_iff {items : List Value} :
    KeyedItems limit items ↔ ∀ item ∈ items, item.Keyed limit := by
  induction items with
  | nil => simp [KeyedItems]
  | cons item rest ih => simp [KeyedItems, ih]

theorem keyedEntries_iff {entries : List (Value × Value)} :
    KeyedEntries limit entries ↔
      ∀ entry ∈ entries, entry.1.Keyed limit ∧ entry.2.Keyed limit := by
  induction entries with
  | nil => simp [KeyedEntries]
  | cons entry rest ih => simp [KeyedEntries, ih]

theorem not_within_zero {value : Value} : ¬ value.Within limits 0 := by
  intro h
  exact Nat.not_lt.2 h.1 value.nesting_pos

theorem within_array {items : List Value} :
    (Value.array items).Within limits (levels + 1) ↔ ∀ item ∈ items, item.Within limits levels := by
  simp only [Within, nesting, Keyed, Nat.add_le_add_iff_right, nestingItems_le_iff, keyedItems_iff]
  exact ⟨fun h item hi => ⟨h.1 item hi, h.2 item hi⟩,
    fun h => ⟨fun item hi => (h item hi).1, fun item hi => (h item hi).2⟩⟩

theorem within_map {entries : List (Value × Value)} :
    (Value.map entries).Within limits (levels + 1) ↔
      DistinctKeys limits.maxMapEntries entries ∧
        ∀ entry ∈ entries, entry.1.Within limits levels ∧ entry.2.Within limits levels := by
  simp only [Within, nesting, Keyed, Nat.add_le_add_iff_right, nestingEntries_le_iff,
    keyedEntries_iff]
  constructor
  · intro h
    obtain ⟨hn, hd, hk⟩ := h
    exact ⟨hd, fun entry he => ⟨⟨(hn entry he).1, (hk entry he).1⟩, (hn entry he).2, (hk entry he).2⟩⟩
  · intro h
    obtain ⟨hd, h⟩ := h
    exact ⟨fun entry he => ⟨(h entry he).1.1, (h entry he).2.1⟩, hd,
      fun entry he => ⟨(h entry he).1.2, (h entry he).2.2⟩⟩

theorem within_tag {number : Nat} {content : Value} :
    (Value.tag number content).Within limits (levels + 1) ↔ content.Within limits levels := by
  simp only [Within, nesting, Keyed, Nat.add_le_add_iff_right]

end Value

/-! ### The grammar by the first byte -/

variable {L : Value → Bytes → Prop} {major info argument : Nat} {value : Value} {head : UInt8}
  {bytes body : Bytes}

theorem mem_argumentWidths {width : Nat} :
    (info, width) ∈ argumentWidths ↔
      info = 24 ∧ width = 1 ∨ info = 25 ∧ width = 2 ∨ info = 26 ∧ width = 4 ∨
        info = 27 ∧ width = 8 := by
  simp [argumentWidths]

theorem Argument.info_lt (h : Argument info argument bytes) : info < 28 := by
  cases h with
  | immediate h => omega
  | following h _ =>
    have hinfo := mem_argumentWidths.1 h
    omega

theorem Content.major_lt (h : Content L major argument value body) : major < 7 := by
  cases h <;> decide

theorem Simple.number_bounds {number : Nat} (h : Simple number value) : 20 ≤ number ∧ number < 23 := by
  cases h <;> decide

theorem toNat_head (hm : major < 8) (hi : info < 32) :
    (UInt8.ofNat (32 * major + info)).toNat = 32 * major + info :=
  UInt8.toNat_ofNat_of_lt' (Nat.lt_of_lt_of_le (m := 256) (by omega) (by decide))

theorem head_eq (head : UInt8) : UInt8.ofNat (32 * (head.toNat / 32) + head.toNat % 32) = head := by
  rw [Nat.div_add_mod, UInt8.ofNat_toNat]

/-- An encoding that begins with a major type below 7 is an argument with its content. -/
theorem encodes_cons_iff_item (h : head.toNat / 32 ≠ 7) :
    Encodes value (head :: bytes) ↔
      ∃ argument following body, bytes = following ++ body ∧
        Argument (head.toNat % 32) argument following ∧
        Content Encodes (head.toNat / 32) argument value body := by
  constructor
  · intro he
    cases he with
    | @item major info argument _ following body ha hc =>
      have hi := ha.info_lt
      have hm := hc.major_lt
      rw [toNat_head (by omega) (by omega)] at h ⊢
      have hmajor : (32 * major + info) / 32 = major := by omega
      have hinfo : (32 * major + info) % 32 = info := by omega
      rw [hmajor, hinfo]
      exact ⟨argument, following, body, rfl, ha, hc⟩
    | simple hs => cases hs <;> exact absurd rfl h
    | simpleFollowing hs => exact absurd rfl h
  · intro he
    obtain ⟨argument, following, body, rfl, ha, hc⟩ := he
    have hitem := Encodes.item ha hc
    rwa [head_eq] at hitem

/-- An encoding that begins with major type 7 is a simple value in that byte or in the one after it. -/
theorem encodes_cons_iff_simple (h : head.toNat / 32 = 7) :
    Encodes value (head :: bytes) ↔
      (Simple (head.toNat % 32) value ∧ bytes = []) ∨
      (head.toNat % 32 = 24 ∧ ∃ number : UInt8, Simple number.toNat value ∧ bytes = [number]) := by
  have hhead := head_eq head
  rw [h] at hhead
  constructor
  · intro he
    cases he with
    | @item major info argument _ following body ha hc =>
      have hi := ha.info_lt
      have hm := hc.major_lt
      rw [toNat_head (by omega) (by omega)] at h
      omega
    | simple hs =>
      refine .inl ⟨?_, rfl⟩
      cases hs <;> constructor
    | @simpleFollowing number _ hs =>
      refine .inr ⟨rfl, UInt8.ofNat number, ?_, rfl⟩
      cases hs <;> constructor
  · intro he
    obtain ⟨hs, rfl⟩ | ⟨hinfo, number, hs, rfl⟩ := he
    · rw [← hhead]
      exact .simple hs
    · have hf := Encodes.simpleFollowing hs
      rw [UInt8.ofNat_toNat] at hf
      rw [hinfo] at hhead
      rwa [← hhead]

theorem Encodes.length_pos (h : Encodes value bytes) : 0 < bytes.length := by
  cases h <;> exact Nat.succ_pos _

/-- A relation that holds of an encoding whenever it holds of the encodings in it holds of all encodings. -/
theorem Encodes.induct {P : Value → Bytes → Prop}
    (item : ∀ {major info argument : Nat} {value : Value} {following body : Bytes},
      Argument info argument following → Content P major argument value body →
      P value (UInt8.ofNat (32 * major + info) :: (following ++ body)))
    (simple : ∀ {number : Nat} {value : Value},
      Simple number value → P value [UInt8.ofNat (224 + number)])
    (simpleFollowing : ∀ {number : Nat} {value : Value},
      Simple number value → P value [0xf8, UInt8.ofNat number])
    {value : Value} {bytes : Bytes} (h : Encodes value bytes) : P value bytes :=
  -- the `induction` tactic does not take a relation that is nested in others
  @Encodes.rec (fun value bytes _ => P value bytes)
    (fun major argument value body _ => Content P major argument value body)
    (fun items body _ => Row P items body) (fun entries body _ => PairRow P entries body)
    (fun ha _ hc => item ha hc) simple simpleFollowing
    .unsigned .negative .bytes .text (fun _ hr => .array hr) (fun _ hr => .map hr) (fun _ hc => .tag hc)
    .nil (fun _ _ ha hr => .cons ha hr) .nil (fun _ _ _ hk hv hr => .cons hk hv hr) _ _ h

/-! ### One level down -/

variable {limits : Limits} {levels : Nat}

/-- The nested items of a content are within the limits one level below it. -/
theorem content_within_iff :
    Content Encodes major argument value body ∧ value.Within limits (levels + 1) ↔
      Content (Admitted limits levels) major argument value body ∧
        ∀ entries, value = .map entries → Value.DistinctKeys limits.maxMapEntries entries := by
  constructor
  · intro h
    obtain ⟨hc, hw⟩ := h
    cases hc with
    | unsigned => exact ⟨.unsigned, by simp⟩
    | negative => exact ⟨.negative, by simp⟩
    | bytes => exact ⟨.bytes, by simp⟩
    | text => exact ⟨.text, by simp⟩
    | array hr => exact ⟨.array (Row.and_iff.2 ⟨hr, Value.within_array.1 hw⟩), by simp⟩
    | map hr =>
      obtain ⟨hd, hw⟩ := Value.within_map.1 hw
      refine ⟨.map (PairRow.and_iff.2 ⟨hr, hw⟩), ?_⟩
      intro entries he
      cases he
      exact hd
    | tag he => exact ⟨.tag ⟨he, Value.within_tag.1 hw⟩, by simp⟩
  · intro h
    obtain ⟨hc, hd⟩ := h
    have hscalar : 1 ≤ levels + 1 := Nat.succ_pos levels
    cases hc with
    | unsigned => exact ⟨.unsigned, hscalar, trivial⟩
    | negative => exact ⟨.negative, hscalar, trivial⟩
    | bytes => exact ⟨.bytes, hscalar, trivial⟩
    | text => exact ⟨.text, hscalar, trivial⟩
    | array hr =>
      obtain ⟨hr, hw⟩ := Row.and_iff.1 hr
      exact ⟨.array hr, Value.within_array.2 hw⟩
    | map hr =>
      obtain ⟨hr, hw⟩ := PairRow.and_iff.1 hr
      exact ⟨.map hr, Value.within_map.2 ⟨hd _ rfl, hw⟩⟩
    | tag he => exact ⟨.tag he.1, Value.within_tag.2 he.2⟩

theorem Simple.within {number : Nat} (h : Simple number value) : value.Within limits (levels + 1) := by
  cases h <;> exact ⟨Nat.succ_pos levels, trivial⟩

/-- `encodes_cons_iff_item` within the limits. -/
theorem admitted_cons_iff_item (h : head.toNat / 32 ≠ 7) :
    Admitted limits (levels + 1) value (head :: bytes) ↔
      ∃ argument following body, bytes = following ++ body ∧
        Argument (head.toNat % 32) argument following ∧
        Content (Admitted limits levels) (head.toNat / 32) argument value body ∧
        ∀ entries, value = .map entries → Value.DistinctKeys limits.maxMapEntries entries := by
  rw [Admitted, encodes_cons_iff_item h]
  constructor
  · intro ha
    obtain ⟨⟨argument, following, body, hb, ha, hc⟩, hw⟩ := ha
    exact ⟨argument, following, body, hb, ha, content_within_iff.1 ⟨hc, hw⟩⟩
  · intro ha
    obtain ⟨argument, following, body, hb, ha, hc⟩ := ha
    obtain ⟨hc, hw⟩ := content_within_iff.2 hc
    exact ⟨⟨argument, following, body, hb, ha, hc⟩, hw⟩

/-- `encodes_cons_iff_simple` within the limits. -/
theorem admitted_cons_iff_simple (h : head.toNat / 32 = 7) :
    Admitted limits (levels + 1) value (head :: bytes) ↔
      (Simple (head.toNat % 32) value ∧ bytes = []) ∨
      (head.toNat % 32 = 24 ∧ ∃ number : UInt8, Simple number.toNat value ∧ bytes = [number]) := by
  rw [Admitted, encodes_cons_iff_simple h]
  refine ⟨And.left, fun hs => ⟨hs, ?_⟩⟩
  obtain ⟨hs, _⟩ | ⟨_, _, hs, _⟩ := hs
  · exact hs.within
  · exact hs.within

end WebAuthn.Cbor
