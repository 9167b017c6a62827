import WebAuthn.Proofs.Json.Grammar
import WebAuthn.Proofs.Json.Rendering

/-!
# What string literals spell

A string literal is read by turning its pieces into bytes and the bytes into characters. These characters are the ones
that it stands for, and a literal that is read stands for some.

* `Utf8.utf8EncodeChar_append_inj` — no character's bytes begin with another one's;
* `Text.toString?_of_spells` — what a literal stands for is read;
* `Text.takes_bytes` — bytes that do not begin a character come from pieces that are bytes;
* `Text.spells_of_toString?` — what is read is what the literal stands for, if its units have four digits.
-/

namespace WebAuthn

/-! ### The bytes of characters -/

namespace Utf8

/-- A byte that continues a character. -/
def Continues (b : UInt8) : Prop :=
  128 ≤ b.toNat ∧ b.toNat < 192

theorem continues_ofNat (n : Nat) : Continues (UInt8.ofNat (n % 64 + 128)) := by
  rw [Continues, UInt8.toNat_ofNat']
  omega

/-- Only the first byte of a character does not continue one. -/
theorem utf8EncodeChar_eq_cons (c : Char) :
    ∃ lead more, String.utf8EncodeChar c = lead :: more ∧ ¬ Continues lead ∧ ∀ b ∈ more, Continues b := by
  have hvalid : c.val.toNat < 0x110000 := by
    have hc := c.valid
    unfold UInt32.isValidChar Nat.isValidChar at hc
    omega
  unfold String.utf8EncodeChar
  generalize c.val.toNat = v at hvalid
  dsimp only
  split
  · refine ⟨_, _, rfl, ?_, nofun⟩
    rw [Continues, UInt8.toNat_ofNat']
    omega
  · split
    · refine ⟨_, _, rfl, ?_, List.forall_mem_singleton.2 (continues_ofNat _)⟩
      rw [Continues, UInt8.toNat_ofNat']
      omega
    · split
      · refine ⟨_, _, rfl, ?_, List.forall_mem_cons.2 ⟨continues_ofNat _,
          List.forall_mem_singleton.2 (continues_ofNat _)⟩⟩
        rw [Continues, UInt8.toNat_ofNat']
        omega
      · refine ⟨_, _, rfl, ?_, List.forall_mem_cons.2 ⟨continues_ofNat _,
          List.forall_mem_cons.2 ⟨continues_ofNat _, List.forall_mem_singleton.2 (continues_ofNat _)⟩⟩⟩
        rw [Continues, UInt8.toNat_ofNat']
        omega

/-- No character's bytes begin with another one's. -/
theorem utf8EncodeChar_append_inj {c d : Char} {front back : Bytes}
    (h : String.utf8EncodeChar c ++ front = String.utf8EncodeChar d ++ back) : c = d ∧ front = back := by
  have hread : (String.utf8EncodeChar c ++ front).toByteArray.utf8DecodeChar? 0 =
      (String.utf8EncodeChar d ++ back).toByteArray.utf8DecodeChar? 0 := by rw [h]
  simp only [List.toByteArray_append, ByteArray.utf8DecodeChar?_utf8EncodeChar_append,
    Option.some.injEq] at hread
  subst hread
  exact ⟨rfl, List.append_cancel_left h⟩

end Utf8

namespace Json.Text

variable {text rest : Text} {bytes more : Bytes} {characters : List Char} {s : String}

/-! ### What is stood for is read -/

theorem codePoint_eq (code : Nat) : codePoint code = String.utf8EncodeChar (Char.ofNat code) := by
  have h := Utf8.encode_ofList [Char.ofNat code]
  rwa [List.flatMap_singleton] at h

theorem codePoint_toNat (c : Char) : codePoint c.toNat = String.utf8EncodeChar c := by
  rw [codePoint_eq, Char.ofNat_toNat]

theorem bytes?_bytes_append (bytes : Bytes) (rest : Text) :
    bytes? (bytes.map .byte ++ rest) = (bytes? rest).map (bytes ++ ·) := by
  induction bytes with
  | nil =>
    show bytes? rest = (bytes? rest).map fun more => more
    rw [Option.map_id']
  | cons b bytes ih =>
    rw [List.map_cons, List.cons_append, bytes?, ih, Option.map_map]
    rfl

/-- A pair of surrogates spells its code point. -/
theorem bytes?_pair {high low : Nat} (hh : isHighSurrogate high = true) (hl : isLowSurrogate low = true)
    (rest : Text) :
    bytes? (.unit high :: .unit low :: rest) = (bytes? rest).map (codePoint (pair high low) ++ ·) := by
  rw [bytes?, if_pos hh, if_pos hl]

/-- A character is no surrogate. -/
theorem toNat_lt_or_le (c : Char) : c.toNat < 0xD800 ∨ 0xE000 ≤ c.toNat ∧ c.toNat < 0x110000 := by
  have hc := c.valid
  unfold UInt32.isValidChar Nat.isValidChar at hc
  unfold Char.toNat
  omega

theorem isHighSurrogate_highUnit (c : Char) : isHighSurrogate (highUnit c) = true := by
  have hc := toNat_lt_or_le c
  rw [isHighSurrogate, highUnit, Bool.and_eq_true, decide_eq_true_iff, decide_eq_true_iff]
  omega

theorem isLowSurrogate_lowUnit (c : Char) : isLowSurrogate (lowUnit c) = true := by
  rw [isLowSurrogate, lowUnit, Bool.and_eq_true, decide_eq_true_iff, decide_eq_true_iff]
  omega

theorem pair_units {c : Char} (h : 0x10000 ≤ c.toNat) : pair (highUnit c) (lowUnit c) = c.toNat := by
  unfold pair highUnit lowUnit
  omega

theorem bytes?_of_spells (h : text.Spells characters) :
    bytes? text = some (characters.flatMap String.utf8EncodeChar) := by
  induction h with
  | nil => rfl
  | bytes _ ih => rw [bytes?_bytes_append, ih, Option.map_some, List.flatMap_cons]
  | @unit _ c _ hc _ ih =>
    have hs := toNat_lt_or_le c
    rw [bytes?_unit (by omega), ih, codePoint_toNat, Option.map_some, List.flatMap_cons]
  | pair hc _ ih =>
    rw [bytes?_pair (isHighSurrogate_highUnit _) (isLowSurrogate_lowUnit _), ih, pair_units hc,
      codePoint_toNat, Option.map_some, List.flatMap_cons]

/-- The characters that a literal stands for are read. -/
theorem toString?_of_spells (h : text.Spells s.toList) : toString? text = some s := by
  rw [toString?, bytes?_of_spells h, Option.bind_some, Utf8.decode?_eq_some_iff, ← Utf8.encode_ofList,
    String.ofList_toList]

/-! ### What is read is stood for -/

/-- The ways in which a literal begins that spells some bytes. -/
inductive Begins : Text → Bytes → Prop where
  | nil : Begins [] []
  | byte {rest : Text} {b : UInt8} {more : Bytes} :
      bytes? rest = some more → Begins (.byte b :: rest) (b :: more)
  | unit {rest : Text} {code : Nat} {more : Bytes} :
      code < 0xD800 ∨ 0xE000 ≤ code → bytes? rest = some more →
      Begins (.unit code :: rest) (codePoint code ++ more)
  | pair {rest : Text} {high low : Nat} {more : Bytes} :
      isHighSurrogate high = true → isLowSurrogate low = true → bytes? rest = some more →
      Begins (.unit high :: .unit low :: rest) (codePoint (pair high low) ++ more)

theorem lt_or_le_of_not_surrogate {code : Nat} (hh : ¬ isHighSurrogate code = true)
    (hl : ¬ isLowSurrogate code = true) : code < 0xD800 ∨ 0xE000 ≤ code := by
  rw [isHighSurrogate, Bool.and_eq_true, decide_eq_true_iff, decide_eq_true_iff] at hh
  rw [isLowSurrogate, Bool.and_eq_true, decide_eq_true_iff, decide_eq_true_iff] at hl
  omega

theorem begins_of_bytes? (h : bytes? text = some bytes) : Begins text bytes := by
  unfold bytes? at h
  split at h
  · cases h
    exact .nil
  · obtain ⟨more, hr, rfl⟩ := Option.map_eq_some_iff.1 h
    exact .byte hr
  · next high low rest =>
    split at h
    · next hh =>
      split at h
      · next hl =>
        obtain ⟨more, hr, rfl⟩ := Option.map_eq_some_iff.1 h
        exact .pair hh hl hr
      · cases h
    · next hh =>
      split at h
      · cases h
      · next hl =>
        obtain ⟨more, hr, rfl⟩ := Option.map_eq_some_iff.1 h
        exact .unit (lt_or_le_of_not_surrogate hh hl) hr
  · next code rest _ =>
    split at h
    · cases h
    · next hs =>
      rw [Bool.or_eq_true, not_or] at hs
      obtain ⟨more, hr, rfl⟩ := Option.map_eq_some_iff.1 h
      exact .unit (lt_or_le_of_not_surrogate hs.1 hs.2) hr

/-- A code point does not begin with a byte that continues one. -/
theorem codePoint_append_ne {code : Nat} {b : UInt8} (hb : Utf8.Continues b) (front back : Bytes) :
    codePoint code ++ front ≠ b :: back := by
  obtain ⟨lead, tail, hc, hlead, -⟩ := Utf8.utf8EncodeChar_eq_cons (Char.ofNat code)
  rw [codePoint_eq, hc]
  rintro ⟨⟩
  exact hlead hb

/-- Bytes that continue a character come from pieces that are bytes. -/
theorem takes_bytes {front : Bytes} (hf : ∀ b ∈ front, Utf8.Continues b)
    (h : bytes? text = some (front ++ more)) :
    ∃ rest, text = front.map .byte ++ rest ∧ bytes? rest = some more := by
  induction front generalizing text with
  | nil => exact ⟨text, rfl, h⟩
  | cons b front ih =>
    obtain ⟨hb, hfront⟩ := List.forall_mem_cons.1 hf
    have hbegins := begins_of_bytes? h
    -- `cases` needs an index that is a variable
    generalize hbytes : b :: front ++ more = bytes at hbegins
    cases hbegins with
    | nil => cases hbytes
    | @byte rest _ _ hr =>
      obtain ⟨rfl, rfl⟩ := List.cons.inj hbytes
      obtain ⟨last, rfl, hlast⟩ := ih hfront hr
      exact ⟨last, rfl, hlast⟩
    | unit _ _ => exact absurd hbytes.symm (codePoint_append_ne hb _ _)
    | pair _ _ _ => exact absurd hbytes.symm (codePoint_append_ne hb _ _)

/-- The units of the literal have four hexadecimal digits. -/
def FourDigits (text : Text) : Prop :=
  ∀ code, .unit code ∈ text → code < 0x10000

theorem FourDigits.tail {piece : Piece} (h : FourDigits (piece :: rest)) : FourDigits rest :=
  fun code hc => h code (List.mem_cons_of_mem _ hc)

theorem toNat_ofNat {code : Nat} (h : code < 0xD800 ∨ 0xE000 ≤ code ∧ code < 0x110000) :
    (Char.ofNat code).toNat = code := by
  have hvalid : code.isValidChar := by
    unfold Nat.isValidChar
    omega
  rw [Char.ofNat, dif_pos hvalid]
  rfl

/-- The units of a pair are those of its code point. -/
theorem pair_spec {high low : Nat} (hh : isHighSurrogate high = true) (hl : isLowSurrogate low = true) :
    0x10000 ≤ (Char.ofNat (pair high low)).toNat ∧ highUnit (Char.ofNat (pair high low)) = high ∧
      lowUnit (Char.ofNat (pair high low)) = low := by
  rw [isHighSurrogate, Bool.and_eq_true, decide_eq_true_iff, decide_eq_true_iff] at hh
  rw [isLowSurrogate, Bool.and_eq_true, decide_eq_true_iff, decide_eq_true_iff] at hl
  have hcode : 0xE000 ≤ pair high low ∧ pair high low < 0x110000 := by
    unfold pair
    omega
  unfold highUnit lowUnit
  rw [toNat_ofNat (.inr hcode)]
  unfold pair
  omega

theorem spells_of_bytes? (hd : text.FourDigits)
    (h : bytes? text = some (characters.flatMap String.utf8EncodeChar)) : text.Spells characters := by
  -- what the literal begins with decides how many of its pieces the first character takes
  induction characters generalizing text with
  | nil =>
    have hbegins := begins_of_bytes? h
    generalize hbytes : List.flatMap String.utf8EncodeChar [] = bytes at hbegins
    cases hbegins with
    | nil => exact .nil
    | byte _ => cases hbytes
    | @unit _ code more _ _ =>
      obtain ⟨lead, tail, hc, -⟩ := Utf8.utf8EncodeChar_eq_cons (Char.ofNat code)
      rw [codePoint_eq, hc] at hbytes
      cases hbytes
    | @pair _ high low more _ _ _ =>
      obtain ⟨lead, tail, hc, -⟩ := Utf8.utf8EncodeChar_eq_cons (Char.ofNat (pair high low))
      rw [codePoint_eq, hc] at hbytes
      cases hbytes
  | cons c characters ih =>
    have hbegins := begins_of_bytes? h
    generalize hbytes : (c :: characters).flatMap String.utf8EncodeChar = bytes at hbegins
    rw [List.flatMap_cons] at hbytes
    cases hbegins with
    | nil =>
      obtain ⟨lead, tail, hc, -⟩ := Utf8.utf8EncodeChar_eq_cons c
      rw [hc] at hbytes
      cases hbytes
    | @byte rest b more hr =>
      obtain ⟨lead, tail, hc, -, htail⟩ := Utf8.utf8EncodeChar_eq_cons c
      rw [hc] at hbytes
      obtain ⟨rfl, rfl⟩ := List.cons.inj hbytes
      obtain ⟨last, rfl, hlast⟩ := takes_bytes htail hr
      have hspells : last.Spells characters :=
        ih (fun code hcode => hd code (List.mem_cons_of_mem _ (List.mem_append_right _ hcode))) hlast
      have hall := hspells.bytes (c := c)
      rwa [hc] at hall
    | @unit rest code more hs hr =>
      rw [codePoint_eq] at hbytes
      obtain ⟨rfl, rfl⟩ := Utf8.utf8EncodeChar_append_inj hbytes
      have hcode : code < 0x10000 := hd code List.mem_cons_self
      have hval : (Char.ofNat code).toNat = code := toNat_ofNat (by omega)
      have hspells := (ih hd.tail hr).unit (c := Char.ofNat code) (by omega)
      rwa [hval] at hspells
    | @pair rest high low more hh hl hr =>
      rw [codePoint_eq] at hbytes
      obtain ⟨hc, rfl⟩ := Utf8.utf8EncodeChar_append_inj hbytes
      obtain ⟨hcode, hhigh, hlow⟩ := pair_spec hh hl
      rw [← hc] at hcode hhigh hlow
      have hspells := (ih hd.tail.tail hr).pair hcode
      rwa [hhigh, hlow] at hspells

/-- The characters that are read are those that the literal stands for. -/
theorem spells_of_toString? (hd : text.FourDigits) (h : toString? text = some s) :
    text.Spells s.toList := by
  obtain ⟨bytes, hbytes, hdecode⟩ := Option.bind_eq_some_iff.1 h
  rw [Utf8.decode?_eq_some_iff.1 hdecode] at hbytes
  refine spells_of_bytes? hd ?_
  rwa [← Utf8.encode_ofList, String.ofList_toList]

/-- The literal that spells a text byte by byte stands for it. -/
theorem spells_ofString (s : String) : (ofString s).Spells s.toList := by
  refine spells_of_toString? (fun code hcode => ?_) (toString?_ofString s)
  obtain ⟨b, -, hb⟩ := List.mem_map.1 hcode
  cases hb

/-! ### Written literals -/

theorem hexDigit_lt {value : Nat} {b : UInt8} (h : HexDigit value b) : value < 16 := by
  cases h <;> omega

/-- Units are written with four digits. -/
theorem WrittenAs.fourDigits (h : text.WrittenAs bytes) : text.FourDigits := by
  induction h with
  | nil => exact nofun
  | cons hpiece _ ih =>
    intro code hcode
    obtain rfl | hcode := List.mem_cons.1 hcode
    · cases hpiece with
      | unit hi hj hk hl =>
        have := hexDigit_lt hi
        have := hexDigit_lt hj
        have := hexDigit_lt hk
        have := hexDigit_lt hl
        omega
    · exact ih code hcode

end Json.Text

end WebAuthn
