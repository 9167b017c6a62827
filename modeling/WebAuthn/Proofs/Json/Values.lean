import WebAuthn.Proofs.Json.Grammar
import WebAuthn.Proofs.Json.Rendering

/-!
# Written values are read back

* `numeral_digits` — the digits of a number are a number literal;
* `Value.readable_ofInt`, `Value.integer?_ofInt` — integers, and `Value.integerIn?_ofInt` within bounds;
* `Value.readable_array`, `Value.list?_reread` — arrays of values that are read back;
* `Value.readable_ofFields`, `Record.ofValue?_ofFields_reread` — records.
-/

namespace WebAuthn.Json

/-! ### Numbers -/

/-- The digits of a positive number do not begin with zero. -/
theorem digits_eq_cons {n : Nat} (h : 0 < n) :
    ∃ digit rest, Decimal.digits n = digit :: rest ∧ digit ≠ 0x30 := by
  induction n using Nat.strongRecOn with
  | ind n ih =>
    rw [Decimal.digits]
    split
    · next hlt =>
      refine ⟨_, [], rfl, ?_⟩
      rw [← UInt8.toNat_inj.ne, UInt8.toNat_ofNat']
      show (48 + n) % 256 ≠ 48
      omega
    · next hle =>
      obtain ⟨digit, rest, hdigits, hne⟩ := ih (n / 10) (by omega) (by omega)
      exact ⟨digit, rest ++ [UInt8.ofNat (48 + n % 10)], by rw [hdigits]; rfl, hne⟩

/-- The digits of a number are an integer part. -/
theorem integerPart_digits (n : Nat) : IntegerPart (Decimal.digits n) := by
  obtain rfl | hpos := Nat.eq_zero_or_pos n
  · have hzero : Decimal.digits 0 = [0x30] := by decide +kernel
    rw [hzero]
    exact .zero
  · obtain ⟨digit, rest, hdigits, hne⟩ := digits_eq_cons hpos
    have hall : ∀ d ∈ digit :: rest, Decimal.isDigit d = true := fun d hd =>
      Decimal.isDigit_of_mem_digits (hdigits ▸ hd)
    obtain ⟨hdigit, hrest⟩ := List.forall_mem_cons.1 hall
    rw [hdigits]
    exact .digits hdigit hne hrest

/-- The digits of a number, with or without a minus sign, are a number literal. -/
theorem numeral_digits {sign : Bytes} (hs : sign ∈ ([[], [0x2d]] : List Bytes)) (n : Nat) :
    Numeral (sign ++ Decimal.digits n) := by
  have h := Numeral.mk hs (integerPart_digits n) .absent .absent
  rwa [List.append_nil, List.append_nil] at h

namespace Value

theorem readable_ofString (text : String) : (ofString text).Readable := trivial

theorem readable_ofInt (n : Int) : (ofInt n).Readable := by
  unfold ofInt
  split
  · exact isNumber_of_numeral (@numeral_digits [0x2d] (by decide) n.natAbs)
  · exact isNumber_of_numeral (@numeral_digits [] (by decide) n.natAbs)

/-- The integer of a number literal without fraction and exponent, by its digits. -/
theorem integer?_number {literal : Bytes} {n : Nat} (h : afterMinus literal = Decimal.digits n) :
    (number literal).integer? =
      if (Decimal.digits n).length = literal.length then some (n : Int)
      else if n = 0 then none else some (-n) := by
  have hall : (Decimal.digits n).all Decimal.isDigit = true :=
    List.all_eq_true.2 fun _ => Decimal.isDigit_of_mem_digits
  simp only [integer?, h, hall, Decimal.ofDigits_digits, Bool.not_true, Bool.false_eq_true, if_false]

/-- Integers are read back. -/
theorem integer?_ofInt (n : Int) : (ofInt n).integer? = some n := by
  by_cases hneg : n < 0
  · have hlength : ¬ (Decimal.digits n.natAbs).length = (0x2d :: Decimal.digits n.natAbs).length := by
      rw [List.length_cons]
      omega
    rw [ofInt, if_pos hneg, integer?_number (n := n.natAbs) rfl, if_neg hlength, if_neg (by omega)]
    exact congrArg some (by omega)
  · have hminus : afterMinus (Decimal.digits n.natAbs) = Decimal.digits n.natAbs := by
      have h := (integerPart_digits n.natAbs).afterMinus_append []
      rwa [List.append_nil] at h
    rw [ofInt, if_neg hneg, integer?_number hminus, if_pos rfl]
    exact congrArg some (by omega)

theorem integerIn?_ofInt {low high n : Int} (hl : low ≤ n) (hh : n ≤ high) :
    (ofInt n).integerIn? low high = some n := by
  rw [integerIn?, integer?_ofInt, Option.bind_some, if_pos ⟨hl, hh⟩]

/-! ### Arrays and records -/

section Lists

variable {α : Type} {write : α → Value} {items : List α}

theorem readable_array (h : ∀ a, (write a).Readable) (items : List α) :
    (Value.array (items.map write)).Readable := by
  show ReadableItems (items.map write)
  induction items with
  | nil => trivial
  | cons a rest ih => exact ⟨h a, ih⟩

theorem rereadItems_eq_map (items : List Value) : rereadItems items = items.map reread := by
  induction items with
  | nil => rfl
  | cons item rest ih => rw [rereadItems, ih, List.map_cons]

/-- An array of values that are read back is read back. -/
theorem list?_reread {read : Value → Option α} (h : ∀ a, read (write a).reread = some a)
    (items : List α) : (Value.array (items.map write)).reread.list? read = some items := by
  rw [reread, list?, rereadItems_eq_map]
  induction items with
  | nil => rfl
  | cons a rest ih =>
    rw [List.map_cons, List.map_cons, List.mapM_cons, h, ih]
    rfl

end Lists

theorem readable_ofFields {fields : Record} (h : ∀ field ∈ fields, field.2.Readable) :
    (ofFields fields).Readable := by
  show ReadableMembers (fields.map fun field => (Text.ofString field.1, field.2))
  induction fields with
  | nil => trivial
  | cons field rest ih =>
    obtain ⟨hfield, hrest⟩ := List.forall_mem_cons.1 h
    exact ⟨hfield, ih hrest⟩

end Value

/-- The fields that rendered fields are read as. -/
def Record.reread (fields : Record) : Record :=
  fields.map fun field => (field.1, field.2.reread)

/-- Records are read back field by field. -/
theorem Record.ofValue?_ofFields_reread {names : List String} {fields : Record}
    (h : Record.distinct names fields = true) :
    Record.ofValue? names (Value.ofFields fields).reread = some fields.reread :=
  Record.ofValue?_reread h

end WebAuthn.Json
