import WebAuthn.Json.Value

/-!
# The grammar of JSON texts

Which bytes are a JSON text of a value, without a word about how they are read. A value is its tokens, in order; each of
them may be written in several ways, and blanks may stand before, between and behind them.

* `Numeral` — number literals, by their parts;
* `Piece.WrittenAs`, `Text.WrittenAs` — the pieces of string literals: bytes as they stand, one-letter escapes, and units
  in hexadecimal digits of either case;
* `Token.WrittenAs`, `Layout` — tokens, and tokens with blanks around them;
* `Value.WrittenAs` — the JSON texts of a value;
* `Text.Spells` — the characters that a string literal stands for;
* `isNumber_of_numeral` — the reader of number literals knows all of them.
-/

namespace WebAuthn.Json

/-! ### Number literals -/

def IsDigits (bytes : Bytes) : Prop :=
  bytes ≠ [] ∧ ∀ d ∈ bytes, Decimal.isDigit d = true

/-- The integer part: a single zero, or digits that do not begin with zero. -/
inductive IntegerPart : Bytes → Prop where
  | zero : IntegerPart [0x30]
  | digits {digit : UInt8} {rest : Bytes} :
      Decimal.isDigit digit = true → digit ≠ 0x30 → (∀ d ∈ rest, Decimal.isDigit d = true) →
      IntegerPart (digit :: rest)

/-- The fraction, which may be left out. -/
inductive FractionPart : Bytes → Prop where
  | absent : FractionPart []
  | present {digits : Bytes} : IsDigits digits → FractionPart (0x2e :: digits)

/-- The exponent, which may be left out. -/
inductive ExponentPart : Bytes → Prop where
  | absent : ExponentPart []
  | present {mark : UInt8} {sign digits : Bytes} :
      mark ∈ ([0x65, 0x45] : Bytes) → sign ∈ ([[], [0x2b], [0x2d]] : List Bytes) → IsDigits digits →
      ExponentPart (mark :: (sign ++ digits))

/-- A number literal. -/
inductive Numeral : Bytes → Prop where
  | mk {sign integer fraction exponent : Bytes} :
      sign ∈ ([[], [0x2d]] : List Bytes) → IntegerPart integer → FractionPart fraction →
      ExponentPart exponent → Numeral (sign ++ (integer ++ (fraction ++ exponent)))

/-! ### String literals -/

/-- The letters of the one-letter escapes, each with the byte that it stands for. -/
def escapes : List (UInt8 × UInt8) :=
  [(0x22, 0x22), (0x5c, 0x5c), (0x2f, 0x2f), (0x62, 0x08), (0x66, 0x0c), (0x6e, 0x0a), (0x72, 0x0d),
    (0x74, 0x09)]

/-- A hexadecimal digit of either case. -/
inductive HexDigit : (value : Nat) → UInt8 → Prop where
  | decimal {value : Nat} : value < 10 → HexDigit value (UInt8.ofNat (48 + value))
  | lower {value : Nat} : 10 ≤ value → value < 16 → HexDigit value (UInt8.ofNat (87 + value))
  | upper {value : Nat} : 10 ≤ value → value < 16 → HexDigit value (UInt8.ofNat (55 + value))

/-- The ways to write a piece of a string literal. -/
inductive Piece.WrittenAs : Piece → Bytes → Prop where
  /-- Quotes, backslashes and control characters do not stand for themselves. -/
  | plain {b : UInt8} : 0x20 ≤ b.toNat → b ≠ 0x22 → b ≠ 0x5c → WrittenAs (.byte b) [b]
  | escape {letter b : UInt8} : (letter, b) ∈ escapes → WrittenAs (.byte b) [0x5c, letter]
  | unit {i j k l : Nat} {a b c d : UInt8} :
      HexDigit i a → HexDigit j b → HexDigit k c → HexDigit l d →
      WrittenAs (.unit (4096 * i + 256 * j + 16 * k + l)) [0x5c, 0x75, a, b, c, d]

/-- The ways to write a string literal, without its quotes. -/
inductive Text.WrittenAs : Text → Bytes → Prop where
  | nil : WrittenAs [] []
  | cons {piece : Piece} {rest : Text} {front back : Bytes} :
      piece.WrittenAs front → WrittenAs rest back → WrittenAs (piece :: rest) (front ++ back)

/-- The unit that a character past the first 65536 begins with. -/
def highUnit (c : Char) : Nat :=
  0xD800 + (c.toNat - 0x10000) / 0x400

/-- The unit that a character past the first 65536 ends with. -/
def lowUnit (c : Char) : Nat :=
  0xDC00 + (c.toNat - 0x10000) % 0x400

/-- The characters that a string literal stands for: each of them by its bytes, by its unit or by its two units. -/
inductive Text.Spells : Text → List Char → Prop where
  | nil : Spells [] []
  | bytes {rest : Text} {c : Char} {characters : List Char} :
      Spells rest characters → Spells ((String.utf8EncodeChar c).map .byte ++ rest) (c :: characters)
  | unit {rest : Text} {c : Char} {characters : List Char} :
      c.toNat < 0x10000 → Spells rest characters → Spells (.unit c.toNat :: rest) (c :: characters)
  | pair {rest : Text} {c : Char} {characters : List Char} :
      0x10000 ≤ c.toNat → Spells rest characters →
      Spells (.unit (highUnit c) :: .unit (lowUnit c) :: rest) (c :: characters)

/-! ### Values -/

inductive Token.WrittenAs : Token → Bytes → Prop where
  | openArray : WrittenAs .openArray [0x5b]
  | closeArray : WrittenAs .closeArray [0x5d]
  | openObject : WrittenAs .openObject [0x7b]
  | closeObject : WrittenAs .closeObject [0x7d]
  | comma : WrittenAs .comma [0x2c]
  | colon : WrittenAs .colon [0x3a]
  | text {text : Text} {body : Bytes} :
      text.WrittenAs body → WrittenAs (.text text) (0x22 :: (body ++ [0x22]))
  | number {literal : Bytes} : Numeral literal → WrittenAs (.number literal) literal
  | true : WrittenAs (.bool true) (Utf8.encode "true")
  | false : WrittenAs (.bool false) (Utf8.encode "false")
  | null : WrittenAs .null (Utf8.encode "null")

/-- Spaces, tabulators, line feeds and carriage returns. -/
def Blanks (bytes : Bytes) : Prop :=
  ∀ b ∈ bytes, b ∈ ([0x20, 0x09, 0x0a, 0x0d] : Bytes)

/-- Tokens with blanks around them. -/
inductive Layout : List Token → Bytes → Prop where
  | nil {blanks : Bytes} : Blanks blanks → Layout [] blanks
  | cons {token : Token} {rest : List Token} {blanks front back : Bytes} :
      Blanks blanks → token.WrittenAs front → Layout rest back →
      Layout (token :: rest) (blanks ++ (front ++ back))

/-- The bytes are a JSON text of the value. -/
def Value.WrittenAs (value : Value) (bytes : Bytes) : Prop :=
  Layout value.tokens bytes

/-- A token without blanks in front. -/
theorem Layout.tight {token : Token} {rest : List Token} {front back : Bytes}
    (ht : token.WrittenAs front) (hr : Layout rest back) : Layout (token :: rest) (front ++ back) :=
  @Layout.cons token rest [] front back nofun ht hr

/-- Bytes other than quotes, backslashes and control characters stand for themselves. -/
theorem Text.writtenAs_bytes {bytes : Bytes} (h : ∀ b ∈ bytes, 0x20 ≤ b.toNat ∧ b ≠ 0x22 ∧ b ≠ 0x5c) :
    Text.WrittenAs (bytes.map .byte) bytes := by
  induction bytes with
  | nil => exact .nil
  | cons b rest ih =>
    obtain ⟨⟨hlow, hquote, hbackslash⟩, hrest⟩ := List.forall_mem_cons.1 h
    exact .cons (.plain hlow hquote hbackslash) (ih hrest)

/-! ### Number literals are known -/

section Numerals

variable {digits rest integer fraction exponent literal : Bytes}

/-- The bytes do not go on with a digit. -/
def NoDigit (bytes : Bytes) : Prop :=
  ∀ b ∈ bytes.head?, Decimal.isDigit b = false

theorem dropWhile_digits (h : ∀ d ∈ digits, Decimal.isDigit d = true) (hr : NoDigit rest) :
    (digits ++ rest).dropWhile Decimal.isDigit = rest := by
  induction digits with
  | nil =>
    cases rest with
    | nil => rfl
    | cons b rest =>
      have hb : ¬ Decimal.isDigit b = true := by
        rw [hr b rfl]
        decide
      exact List.dropWhile_cons_of_neg hb
  | cons d digits ih =>
    obtain ⟨hd, hdigits⟩ := List.forall_mem_cons.1 h
    rw [List.cons_append, List.dropWhile_cons_of_pos hd, ih hdigits]

theorem afterDigits?_append (h : IsDigits digits) (hr : NoDigit rest) :
    afterDigits? (digits ++ rest) = some rest := by
  obtain ⟨hne, hdigits⟩ := h
  cases digits with
  | nil => exact absurd rfl hne
  | cons d digits =>
    obtain ⟨hd, hdigits⟩ := List.forall_mem_cons.1 hdigits
    rw [List.cons_append, afterDigits?, if_pos hd, dropWhile_digits hdigits hr]

theorem ExponentPart.noDigit (h : ExponentPart exponent) : NoDigit exponent := by
  cases h with
  | absent => exact nofun
  | present hmark _ _ =>
    rintro b ⟨⟩
    revert hmark
    simp only [List.mem_cons, List.not_mem_nil, or_false]
    rintro (rfl | rfl) <;> decide

theorem FractionPart.noDigit_append (h : FractionPart fraction) (he : ExponentPart exponent) :
    NoDigit (fraction ++ exponent) := by
  cases h with
  | absent => exact he.noDigit
  | present _ =>
    rintro b ⟨⟩
    decide

theorem ExponentPart.afterExponent?_eq (h : ExponentPart exponent) : afterExponent? exponent = some [] := by
  cases h with
  | absent => rfl
  | @present mark sign digits hmark hsign hdigits =>
    have hnone : NoDigit [] := nofun
    have hafter : afterDigits? digits = some [] := by
      have happend := afterDigits?_append hdigits hnone
      rwa [List.append_nil] at happend
    obtain ⟨hne, hall⟩ := hdigits
    -- digits do not begin with a sign that would be passed over
    have hplain : afterSign digits = digits := by
      cases digits with
      | nil => exact absurd rfl hne
      | cons d digits =>
        have hd := hall d List.mem_cons_self
        unfold afterSign
        split
        · next heq => cases heq; cases hd
        · next heq => cases heq; cases hd
        · rfl
    have hskip : afterDigits? (afterSign (sign ++ digits)) = some [] := by
      simp only [List.mem_cons, List.not_mem_nil, or_false] at hsign
      obtain rfl | rfl | rfl := hsign
      · rw [List.nil_append, hplain, hafter]
      · exact hafter
      · exact hafter
    simp only [List.mem_cons, List.not_mem_nil, or_false] at hmark
    obtain rfl | rfl := hmark
    · exact hskip
    · exact hskip

theorem FractionPart.afterFraction?_append (h : FractionPart fraction) (he : ExponentPart exponent) :
    afterFraction? (fraction ++ exponent) = some exponent := by
  cases h with
  | absent =>
    cases he with
    | absent => rfl
    | present hmark _ _ =>
      simp only [List.mem_cons, List.not_mem_nil, or_false] at hmark
      obtain rfl | rfl := hmark <;> rfl
  | present hdigits => exact afterDigits?_append hdigits he.noDigit

theorem IntegerPart.afterInteger?_append (h : IntegerPart integer) (hr : NoDigit rest) :
    afterInteger? (integer ++ rest) = some rest := by
  cases h with
  | zero => rfl
  | @digits digit more hd hne hdigits =>
    show afterInteger? (digit :: (more ++ rest)) = _
    unfold afterInteger?
    split
    · next heq =>
      cases heq
      exact absurd rfl hne
    · next heq =>
      cases heq
      rw [if_pos hd, dropWhile_digits hdigits hr]
    · next heq => cases heq

/-- An integer part does not begin with a minus sign. -/
theorem IntegerPart.afterMinus_append (h : IntegerPart integer) (rest : Bytes) :
    afterMinus (integer ++ rest) = integer ++ rest := by
  cases h with
  | zero => rfl
  | @digits digit more hd _ _ =>
    show afterMinus (digit :: (more ++ rest)) = _
    unfold afterMinus
    split
    · next heq => cases heq; cases hd
    · rfl

/-- Number literals are known as such. -/
theorem isNumber_of_numeral (h : Numeral literal) : isNumber literal = true := by
  obtain @⟨sign, integer, fraction, exponent, hsign, hinteger, hfraction, hexponent⟩ := h
  have hminus : afterMinus (sign ++ (integer ++ (fraction ++ exponent))) =
      integer ++ (fraction ++ exponent) := by
    simp only [List.mem_cons, List.not_mem_nil, or_false] at hsign
    obtain rfl | rfl := hsign
    · exact hinteger.afterMinus_append _
    · rfl
  rw [isNumber, hminus, hinteger.afterInteger?_append (hfraction.noDigit_append hexponent),
    Option.bind_some, hfraction.afterFraction?_append hexponent, Option.bind_some,
    hexponent.afterExponent?_eq]
  rfl

end Numerals

end WebAuthn.Json
