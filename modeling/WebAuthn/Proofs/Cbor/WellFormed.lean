import WebAuthn.Proofs.Cbor.Recognition

/-!
# Well-formed CBOR

Which bytes are a data item at all, whatever it denotes and whoever reads it. An item is a head, a byte string and nested
items, or an opening byte, nested items and a break. All of CBOR can be written so: floating-point numbers, simple values
without a meaning, strings in chunks and items without a declared length are well-formed too. A simple value below 32 in
a byte of its own is not, since there is a head for it.

* `Head`, `Item` — an item as it is written; `Item.bytes` are its bytes, and `Item.parts` the items at all levels of it;
* `Item.Shaped` — the lengths are the declared ones; `Item.bytes_append_inj`: shaped items are determined by the bytes;
* `Item.Sound`, `WellFormed` — what is asked of every part of an item;
* `Encodes.isSupported` — an encoding is an item of the supported kind at all levels, by induction on the encoding;
* `accepted_items` — an accepted input is well-formed unless there is a short simple value in it.
-/

namespace WebAuthn.Cbor

/-! ### Items as they are written -/

/-- The first byte of an item, in its two parts, and the bytes of the argument that stand behind it. -/
structure Head where
  major : Nat
  info : Nat
  following : Bytes

namespace Head

def bytes (head : Head) : Bytes :=
  UInt8.ofNat (32 * head.major + head.info) :: head.following

def argument (head : Head) : Nat :=
  if head.info < 24 then head.info else Bytes.toNat head.following

/-- The argument stands in the first byte, or in as many bytes as the additional information announces. None of the
additional informations from 28 on announces an argument. -/
def Fits (head : Head) : Prop :=
  head.major < 8 ∧
    (head.info < 24 ∧ head.following = [] ∨ (head.info, head.following.length) ∈ argumentWidths)

/-- The number of bytes behind the head: strings declare their length. -/
def contentLength (head : Head) : Nat :=
  match head.major with
  | 2 | 3 => head.argument
  | _ => 0

/-- The number of items behind the head: arrays and maps declare it, and a tag has one. -/
def nestedCount (head : Head) : Nat :=
  match head.major with
  | 4 => head.argument
  | 5 => 2 * head.argument
  | 6 => 1
  | _ => 0

end Head

/-- An item as it is written, with or without a declared length. -/
inductive Item where
  | definite (head : Head) (content : Bytes) (nested : List Item)
  | indefinite (major : Nat) (nested : List Item)

namespace Item

/-- The byte behind the last nested item of an item without a declared length. -/
def breakByte : UInt8 := 0xff

mutual
def bytes : Item → Bytes
  | .definite head content nested => head.bytes ++ (content ++ bytesList nested)
  | .indefinite major nested => UInt8.ofNat (32 * major + 31) :: (bytesList nested ++ [breakByte])

def bytesList : List Item → Bytes
  | [] => []
  | item :: rest => bytes item ++ bytesList rest
end

mutual
/-- The item and all items in it. -/
def parts : Item → List Item
  | .definite head content nested => .definite head content nested :: partsList nested
  | .indefinite major nested => .indefinite major nested :: partsList nested

def partsList : List Item → List Item
  | [] => []
  | item :: rest => parts item ++ partsList rest
end

theorem mem_parts (item : Item) : item ∈ item.parts := by
  cases item <;> exact List.mem_cons_self

/-! ### What is asked of an item -/

/-- There is as much behind the head as it declares. Without a declared length, a string is made of chunks of its own
type that declare theirs, an array of any items, and a map of an even number of items. -/
def Shaped : Item → Prop
  | .definite head content nested =>
    head.Fits ∧ content.length = head.contentLength ∧ nested.length = head.nestedCount
  | .indefinite major nested =>
    match major with
    | 2 | 3 => ∀ chunk ∈ nested, ∃ head content inner, chunk = .definite head content inner ∧ head.major = major
    | 4 => True
    | 5 => nested.length % 2 = 0
    | _ => False

/-- A simple value below 32 in the byte behind its head. -/
def IsShortSimple : Item → Prop
  | .definite head _ _ => head.major = 7 ∧ head.info = 24 ∧ head.argument < 32
  | .indefinite _ _ => False

/-- The additional information is one of those that mean nothing yet. -/
def UsesReserved : Item → Prop
  | .definite head _ _ => 28 ≤ head.info ∧ head.info < 31
  | .indefinite _ _ => False

def IsIndefinite : Item → Prop
  | .definite _ _ _ => False
  | .indefinite _ _ => True

/-- The item is well-formed if the items in it are. -/
def Sound (item : Item) : Prop :=
  item.Shaped ∧ ¬ item.IsShortSimple

end Item

/-- The bytes are one item, which is well-formed at every level. -/
def WellFormed (bytes : Bytes) : Prop :=
  ∃ item : Item, item.bytes = bytes ∧ ∀ part ∈ item.parts, part.Sound

/-! ### Bytes determine items -/

theorem Head.Fits.info_lt {head : Head} (h : head.Fits) : head.info < 28 := by
  obtain ⟨_, ⟨h, _⟩ | h⟩ := h
  · omega
  · have hinfo := mem_argumentWidths.1 h
    omega

/-- The bytes behind the first one are as many as it announces. -/
theorem Head.Fits.length_eq {head other : Head} (h : head.Fits) (ho : other.Fits)
    (hinfo : head.info = other.info) : head.following.length = other.following.length := by
  obtain ⟨_, ⟨hlt, hnil⟩ | hwidth⟩ := h
  · obtain ⟨_, ⟨_, hnil'⟩ | hwidth'⟩ := ho
    · rw [hnil, hnil']
    · have hwidth' := mem_argumentWidths.1 hwidth'
      omega
  · have hwidth := mem_argumentWidths.1 hwidth
    obtain ⟨_, ⟨hlt', _⟩ | hwidth'⟩ := ho
    · omega
    · have hwidth' := mem_argumentWidths.1 hwidth'
      omega

theorem ofNat_first_inj {major info major' info' : Nat} (hm : major < 8) (hi : info < 32)
    (hm' : major' < 8) (hi' : info' < 32)
    (h : UInt8.ofNat (32 * major + info) = UInt8.ofNat (32 * major' + info')) :
    major = major' ∧ info = info' := by
  have hnat := congrArg UInt8.toNat h
  rw [toNat_head hm hi, toNat_head hm' hi'] at hnat
  omega

theorem Head.bytes_append_inj {head other : Head} {rest rest' : Bytes} (h : head.Fits) (ho : other.Fits)
    (he : head.bytes ++ rest = other.bytes ++ rest') : head = other ∧ rest = rest' := by
  have hinfo := h.info_lt
  have hinfo' := ho.info_lt
  obtain ⟨hfirst, hbehind⟩ := List.cons.inj he
  obtain ⟨hmajor, hinfo⟩ := ofNat_first_inj h.1 (by omega) ho.1 (by omega) hfirst
  obtain ⟨hfollowing, hrest⟩ := List.append_inj hbehind (h.length_eq ho hinfo)
  obtain ⟨_, _, _⟩ := head
  obtain ⟨_, _, _⟩ := other
  obtain rfl : _ = _ := hmajor
  obtain rfl : _ = _ := hinfo
  obtain rfl : _ = _ := hfollowing
  exact ⟨rfl, hrest⟩

namespace Item

theorem major_lt_of_shaped {major : Nat} {nested : List Item} (h : (indefinite major nested).Shaped) :
    major < 6 := by
  refine Nat.lt_of_not_le fun hmajor => ?_
  obtain ⟨more, rfl⟩ : ∃ more, major = more + 6 := ⟨major - 6, by omega⟩
  exact h

/-- No item begins with a break. -/
theorem ne_break {item : Item} {rest rest' : Bytes} (h : item.Shaped) :
    item.bytes ++ rest ≠ breakByte :: rest' := by
  intro he
  cases item with
  | definite head content nested =>
    have hinfo := h.1.info_lt
    have hfirst : UInt8.ofNat (32 * head.major + head.info) = UInt8.ofNat (32 * 7 + 31) :=
      (List.cons.inj he).1
    obtain ⟨_, hbreak⟩ := ofNat_first_inj h.1.1 (by omega) (by decide) (by decide) hfirst
    omega
  | indefinite major nested =>
    have hmajor := major_lt_of_shaped h
    have hfirst : UInt8.ofNat (32 * major + 31) = UInt8.ofNat (32 * 7 + 31) := (List.cons.inj he).1
    obtain ⟨hbreak, _⟩ := ofNat_first_inj (by omega) (by decide) (by decide) (by decide) hfirst
    omega

/-- An item with a declared length does not begin as one without. -/
theorem definite_ne_indefinite {head : Head} {content rest rest' : Bytes} {nested nested' : List Item}
    {major : Nat} (h : (definite head content nested).Shaped) (h' : (indefinite major nested').Shaped) :
    (definite head content nested).bytes ++ rest ≠ (indefinite major nested').bytes ++ rest' := by
  intro he
  have hinfo := h.1.info_lt
  have hmajor := major_lt_of_shaped h'
  have hfirst := (List.cons.inj he).1
  obtain ⟨_, hinfo'⟩ := ofNat_first_inj h.1.1 (by omega) (by omega) (by decide) hfirst
  omega

mutual
/-- Items of which all parts have their declared lengths are determined by the bytes, whatever follows. -/
theorem bytes_append_inj : (a : Item) → (∀ part ∈ a.parts, part.Shaped) →
    ∀ {b : Item} {rest rest' : Bytes}, (∀ part ∈ b.parts, part.Shaped) →
      a.bytes ++ rest = b.bytes ++ rest' → a = b ∧ rest = rest'
  | .definite head content nested, ha, b, rest, rest', hb, he => by
    obtain ⟨hshaped, hnested⟩ := List.forall_mem_cons.1 ha
    cases b with
    | definite head' content' nested' =>
      obtain ⟨hshaped', hnested'⟩ := List.forall_mem_cons.1 hb
      simp only [bytes, List.append_assoc] at he
      obtain ⟨rfl, hbehind⟩ := Head.bytes_append_inj hshaped.1 hshaped'.1 he
      obtain ⟨rfl, hitems⟩ := List.append_inj hbehind (hshaped.2.1.trans hshaped'.2.1.symm)
      obtain ⟨rfl, rfl⟩ :=
        bytesList_append_inj nested hnested hnested' (hshaped.2.2.trans hshaped'.2.2.symm) hitems
      exact ⟨rfl, rfl⟩
    | indefinite major' nested' =>
      exact absurd he (definite_ne_indefinite hshaped (List.forall_mem_cons.1 hb).1)
  | .indefinite major nested, ha, b, rest, rest', hb, he => by
    obtain ⟨hshaped, hnested⟩ := List.forall_mem_cons.1 ha
    cases b with
    | definite head' content' nested' =>
      exact absurd he.symm (definite_ne_indefinite (List.forall_mem_cons.1 hb).1 hshaped)
    | indefinite major' nested' =>
      obtain ⟨hshaped', hnested'⟩ := List.forall_mem_cons.1 hb
      have hmajor := major_lt_of_shaped hshaped
      have hmajor' := major_lt_of_shaped hshaped'
      simp only [bytes, List.cons_append, List.append_assoc] at he
      obtain ⟨hfirst, hitems⟩ := List.cons.inj he
      obtain ⟨rfl, _⟩ := ofNat_first_inj (by omega) (by decide) (by omega) (by decide) hfirst
      obtain ⟨rfl, rfl⟩ := bytesList_break_inj nested hnested hnested' hitems
      exact ⟨rfl, rfl⟩

/-- Nor can as many items be cut in two ways. -/
theorem bytesList_append_inj : (list : List Item) → (∀ part ∈ partsList list, part.Shaped) →
    ∀ {other : List Item} {rest rest' : Bytes}, (∀ part ∈ partsList other, part.Shaped) →
      list.length = other.length → bytesList list ++ rest = bytesList other ++ rest' →
      list = other ∧ rest = rest'
  | [], _, other, rest, rest', _, hlength, he => by
    obtain rfl := List.length_eq_zero_iff.1 hlength.symm
    exact ⟨rfl, he⟩
  | a :: list, ha, other, rest, rest', hb, hlength, he => by
    cases other with
    | nil => cases hlength
    | cons b other =>
      rw [partsList, List.forall_mem_append] at ha hb
      simp only [bytesList, List.append_assoc] at he
      obtain ⟨rfl, hbehind⟩ := bytes_append_inj a ha.1 hb.1 he
      obtain ⟨rfl, rfl⟩ := bytesList_append_inj list ha.2 hb.2 (Nat.succ.inj hlength) hbehind
      exact ⟨rfl, rfl⟩

/-- Nor can the items up to a break. -/
theorem bytesList_break_inj : (list : List Item) → (∀ part ∈ partsList list, part.Shaped) →
    ∀ {other : List Item} {rest rest' : Bytes}, (∀ part ∈ partsList other, part.Shaped) →
      bytesList list ++ ([breakByte] ++ rest) = bytesList other ++ ([breakByte] ++ rest') →
      list = other ∧ rest = rest'
  | [], _, other, rest, rest', hb, he => by
    cases other with
    | nil => exact ⟨rfl, (List.cons.inj he).2⟩
    | cons b other =>
      rw [partsList, List.forall_mem_append] at hb
      rw [bytesList, bytesList, List.append_assoc] at he
      -- no item begins with the byte that breaks
      exact absurd he.symm (ne_break (hb.1 b (mem_parts b)))
  | a :: list, ha, other, rest, rest', hb, he => by
    rw [partsList, List.forall_mem_append] at ha
    cases other with
    | nil =>
      rw [bytesList, bytesList, List.append_assoc] at he
      exact absurd he (ne_break (ha.1 a (mem_parts a)))
    | cons b other =>
      rw [partsList, List.forall_mem_append] at hb
      simp only [bytesList, List.append_assoc] at he
      obtain ⟨rfl, hbehind⟩ := bytes_append_inj a ha.1 hb.1 he
      obtain ⟨rfl, rfl⟩ := bytesList_break_inj list ha.2 hb.2 hbehind
      exact ⟨rfl, rfl⟩
end

/-! ### Items that are read -/

/-- An item of the supported kind: its length is declared, and a simple value is one of those that denote something. -/
def Supported : Item → Prop
  | .definite head content nested =>
    (definite head content nested).Shaped ∧ (head.major = 7 → 20 ≤ head.argument ∧ head.argument < 23)
  | .indefinite _ _ => False

variable {item part : Item}

theorem Supported.shaped (h : item.Supported) : item.Shaped := by
  cases item with
  | definite head content nested => exact h.1
  | indefinite major nested => exact h.elim

theorem Shaped.not_usesReserved (h : item.Shaped) : ¬ item.UsesReserved := by
  intro hreserved
  cases item with
  | definite head content nested => exact absurd h.1.info_lt (Nat.not_lt.2 hreserved.1)
  | indefinite major nested => exact hreserved

theorem Supported.not_isIndefinite (h : item.Supported) : ¬ item.IsIndefinite := by
  cases item with
  | definite head content nested => exact id
  | indefinite major nested => exact fun _ => h

/-- A supported item is a short simple value only if it is a boolean or null in two bytes. -/
theorem Supported.bytes_of_isShortSimple (h : item.Supported) (hshort : item.IsShortSimple) :
    ∃ number : UInt8, item.bytes = [0xf8, number] ∧ 20 ≤ number.toNat ∧ number.toNat ≤ 22 := by
  cases item with
  | indefinite major nested => exact h.elim
  | definite head content nested =>
    obtain ⟨⟨hfits, hcontent, hnested⟩, hsimple⟩ := h
    obtain ⟨major, info, following⟩ := head
    obtain ⟨rfl, rfl, _⟩ : major = 7 ∧ info = 24 ∧ _ := hshort
    obtain rfl : content = [] := List.length_eq_zero_iff.1 hcontent
    obtain rfl : nested = [] := List.length_eq_zero_iff.1 hnested
    have hone : (Head.mk 7 24 [0]).Fits := ⟨by decide, .inr (by decide)⟩
    have hlength : following.length = 1 := hfits.length_eq hone rfl
    obtain ⟨number, rfl⟩ := List.length_eq_one_iff.1 hlength
    obtain ⟨hlow, hhigh⟩ := hsimple rfl
    have hargument : (Head.mk 7 24 [number]).argument = number.toNat := by simp [Head.argument, Bytes.toNat]
    rw [hargument] at hlow hhigh
    exact ⟨number, rfl, hlow, Nat.le_of_lt_succ hhigh⟩

end Item

/-! ### Encodings are items -/

/-- The bytes are an item that is of the supported kind at all levels. -/
def IsSupported (bytes : Bytes) : Prop :=
  ∃ item : Item, item.bytes = bytes ∧ ∀ part ∈ item.parts, part.Supported

section Encodings

variable {major info argument : Nat} {value : Value} {following body content : Bytes}

theorem Argument.argument_eq (h : Argument info argument following) (major : Nat) :
    (Head.mk major info following).argument = argument := by
  cases h with
  | immediate hlt => exact if_pos hlt
  | following hwidth hlt =>
    have hinfo := mem_argumentWidths.1 hwidth
    rw [Head.argument, if_neg (by omega : ¬ info < 24)]
    exact Bytes.toNat_ofNat_of_lt hlt

theorem Argument.fits (h : Argument info argument following) (hm : major < 8) :
    (Head.mk major info following).Fits := by
  cases h with
  | immediate hlt => exact ⟨hm, .inl ⟨hlt, rfl⟩⟩
  | following hwidth hlt =>
    refine ⟨hm, .inr ?_⟩
    rwa [Bytes.ofNat_length]

/-- A head, and behind it what it declares. -/
theorem Argument.isSupported (h : Argument info argument following) (content : Bytes) (nested : List Item)
    (hbody : content ++ Item.bytesList nested = body) (hm : major < 7)
    (hcontent : content.length = (Head.mk major info following).contentLength)
    (hnested : nested.length = (Head.mk major info following).nestedCount)
    (hparts : ∀ part ∈ Item.partsList nested, part.Supported) :
    IsSupported (UInt8.ofNat (32 * major + info) :: (following ++ body)) := by
  subst hbody
  refine ⟨.definite ⟨major, info, following⟩ content nested, rfl, ?_⟩
  refine List.forall_mem_cons.2 ⟨⟨⟨h.fits (by omega), hcontent, hnested⟩, ?_⟩, hparts⟩
  intro hmajor
  exact absurd hmajor (Nat.ne_of_lt hm)

theorem Row.exists_nested {values : List Value} (h : Row (fun _ bytes => IsSupported bytes) values body) :
    ∃ nested, Item.bytesList nested = body ∧ nested.length = values.length ∧
      ∀ part ∈ Item.partsList nested, part.Supported := by
  induction h with
  | nil => exact ⟨[], rfl, rfl, by simp [Item.partsList]⟩
  | cons ha _ ih =>
    obtain ⟨item, rfl, hitem⟩ := ha
    obtain ⟨nested, rfl, hlength, hnested⟩ := ih
    exact ⟨item :: nested, rfl, congrArg Nat.succ hlength, List.forall_mem_append.2 ⟨hitem, hnested⟩⟩

theorem PairRow.exists_nested {entries : List (Value × Value)}
    (h : PairRow (fun _ bytes => IsSupported bytes) entries body) :
    ∃ nested, Item.bytesList nested = body ∧ nested.length = 2 * entries.length ∧
      ∀ part ∈ Item.partsList nested, part.Supported := by
  induction h with
  | nil => exact ⟨[], rfl, rfl, by simp [Item.partsList]⟩
  | cons hk hv _ ih =>
    obtain ⟨key, rfl, hkey⟩ := hk
    obtain ⟨value, rfl, hvalue⟩ := hv
    obtain ⟨nested, rfl, hlength, hnested⟩ := ih
    refine ⟨key :: value :: nested, rfl, ?_, ?_⟩
    · simp only [List.length_cons]
      omega
    · exact List.forall_mem_append.2 ⟨hkey, List.forall_mem_append.2 ⟨hvalue, hnested⟩⟩

/-- Nothing but the bytes of a string and the nested items stands behind a head. -/
theorem Content.isSupported (h : Content (fun _ bytes => IsSupported bytes) major argument value body)
    (ha : Argument info argument following) :
    IsSupported (UInt8.ofNat (32 * major + info) :: (following ++ body)) := by
  have hargument := ha.argument_eq major
  have hnone : ∀ part ∈ Item.partsList [], part.Supported := by simp [Item.partsList]
  cases h with
  | unsigned => exact ha.isSupported [] [] rfl (by decide) rfl rfl hnone
  | negative => exact ha.isSupported [] [] rfl (by decide) rfl rfl hnone
  | bytes => exact ha.isSupported body [] (List.append_nil body) (by decide) hargument.symm rfl hnone
  | text => exact ha.isSupported _ [] (List.append_nil _) (by decide) hargument.symm rfl hnone
  | array hr =>
    obtain ⟨nested, hbody, hlength, hnested⟩ := hr.exists_nested
    exact ha.isSupported [] nested hbody (by decide) rfl (hlength.trans hargument.symm) hnested
  | map hr =>
    obtain ⟨nested, hbody, hlength, hnested⟩ := hr.exists_nested
    refine ha.isSupported [] nested hbody (by decide) rfl (hlength.trans ?_) hnested
    exact congrArg (2 * ·) hargument.symm
  | tag hc =>
    obtain ⟨item, hbody, hitem⟩ := hc
    refine ha.isSupported [] [item] ?_ (by decide) rfl rfl ?_
    · rw [Item.bytesList, Item.bytesList, List.append_nil, List.nil_append, hbody]
    · rwa [Item.partsList, Item.partsList, List.append_nil]

/-- The encodings of a value are supported items, whichever widths its arguments stand in. -/
theorem Encodes.isSupported {bytes : Bytes} (h : Encodes value bytes) : IsSupported bytes := by
  refine Encodes.induct (P := fun _ bytes => IsSupported bytes) (fun ha hc => hc.isSupported ha) ?_ ?_ h
  · intro number value hs
    obtain ⟨hlow, hhigh⟩ := hs.number_bounds
    refine ⟨.definite ⟨7, number, []⟩ [] [], rfl, List.forall_mem_cons.2 ⟨⟨⟨?_, rfl, rfl⟩, fun _ => ?_⟩, ?_⟩⟩
    · exact ⟨(by decide : 7 < 8), .inl ⟨Nat.lt_succ_of_lt hhigh, rfl⟩⟩
    · rw [Head.argument, if_pos (Nat.lt_succ_of_lt hhigh)]
      exact ⟨hlow, hhigh⟩
    · simp [Item.partsList]
  · intro number value hs
    have hwidth : (24, 1) ∈ argumentWidths := by decide
    have ha : Argument 24 number [UInt8.ofNat number] :=
      .following hwidth (Nat.lt_trans hs.number_bounds.2 (by decide))
    refine ⟨.definite ⟨7, 24, [UInt8.ofNat number]⟩ [] [], rfl,
      List.forall_mem_cons.2 ⟨⟨⟨ha.fits (by decide), rfl, rfl⟩, fun _ => ?_⟩, ?_⟩⟩
    · rw [ha.argument_eq 7]
      exact hs.number_bounds
    · simp [Item.partsList]

end Encodings

/-! ### Accepted input -/

/-- Bytes that are a supported item are well-formed but for its short simple values. -/
theorem wellFormed_iff {item : Item} (h : ∀ part ∈ item.parts, part.Supported) :
    WellFormed item.bytes ↔ ∀ part ∈ item.parts, ¬ part.IsShortSimple := by
  constructor
  · intro hwell
    obtain ⟨other, hbytes, hsound⟩ := hwell
    obtain ⟨rfl, _⟩ := Item.bytes_append_inj other (fun part hp => (hsound part hp).1)
      (fun part hp => (h part hp).shaped) (congrArg (· ++ ([] : Bytes)) hbytes)
    exact fun part hp => (hsound part hp).2
  · intro hshort
    exact ⟨item, rfl, fun part hp => ⟨(h part hp).shaped, hshort part hp⟩⟩

/-- An accepted input is one item, and can be cut into parts in no other way. None of the parts uses a reserved
additional information or has indefinite length, and the input is well-formed unless one of them is a boolean or null
in two bytes. -/
theorem accepted_items {limits : Limits} {bytes : Bytes} {value : Value} (h : decode limits bytes = .ok value) :
    ∃ item : Item, item.bytes = bytes ∧
      (∀ other : Item, other.bytes = bytes → (∀ part ∈ other.parts, part.Shaped) → other = item) ∧
      (∀ part ∈ item.parts, part.Shaped ∧ ¬ part.UsesReserved ∧ ¬ part.IsIndefinite ∧
        (part.IsShortSimple →
          ∃ number : UInt8, part.bytes = [0xf8, number] ∧ 20 ≤ number.toNat ∧ number.toNat ≤ 22)) ∧
      (WellFormed bytes ↔ ∀ part ∈ item.parts, ¬ part.IsShortSimple) := by
  obtain ⟨_, hencodes, _⟩ := decode_eq_ok_iff.1 h
  obtain ⟨item, rfl, hparts⟩ := hencodes.isSupported
  refine ⟨item, rfl, ?_, ?_, wellFormed_iff hparts⟩
  · intro other hbytes hother
    exact (Item.bytes_append_inj other hother (fun part hp => (hparts part hp).shaped)
      (congrArg (· ++ ([] : Bytes)) hbytes)).1
  · intro part hp
    have hpart := hparts part hp
    exact ⟨hpart.shaped, hpart.shaped.not_usesReserved, hpart.not_isIndefinite, hpart.bytes_of_isShortSimple⟩

/-- An array is accepted in which true is written as a short simple value, so that the array is not well-formed. -/
theorem sample_short_simple_accepted :
    decode {} [0x82, 0xf8, 0x15, 0x20] = .ok (.array [.bool true, .int (-1)]) ∧
      ¬ WellFormed [0x82, 0xf8, 0x15, 0x20] := by
  have hdecode : decode {} [0x82, 0xf8, 0x15, 0x20] = .ok (.array [.bool true, .int (-1)]) := rfl
  obtain ⟨item, _, hunique, _, hwell⟩ := accepted_items hdecode
  have hitem := hunique
    (.definite ⟨4, 2, []⟩ [] [.definite ⟨7, 24, [0x15]⟩ [] [], .definite ⟨1, 0, []⟩ [] []]) rfl
    (by simp [Item.parts, Item.partsList, Item.Shaped, Head.Fits, Head.contentLength, Head.nestedCount,
      Head.argument, argumentWidths])
  refine ⟨hdecode, fun h => hwell.1 h (.definite ⟨7, 24, [0x15]⟩ [] []) ?_ ⟨rfl, rfl, by decide⟩⟩
  rw [← hitem]
  simp [Item.parts, Item.partsList]

/-- Not every accepted input is well-formed: false is read from two bytes. -/
theorem not_well_formed_accepted :
    ¬ ∀ (limits : Limits) (bytes : Bytes) (value : Value),
      decode limits bytes = .ok value → WellFormed bytes := by
  intro h
  have hwell : WellFormed (Item.definite ⟨7, 24, [0x14]⟩ [] []).bytes :=
    h {} [0xf8, 0x14] (.bool false) rfl
  refine (wellFormed_iff ?_).1 hwell _ (Item.mem_parts _) ⟨rfl, rfl, by decide⟩
  simp [Item.parts, Item.partsList, Item.Supported, Item.Shaped, Head.Fits, Head.contentLength,
    Head.nestedCount, Head.argument, Bytes.toNat, argumentWidths]

end WebAuthn.Cbor
