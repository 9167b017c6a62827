import WebAuthn.Bytes
import WebAuthn.Text.Utf8

/-!
# The URL-safe base64 alphabet

Six bits to a symbol, `A–Z a–z 0–9 - _`, four symbols to three bytes.

* `Base64Url.encode` — the text of a byte string, without padding;
* `Base64Url.decode` — the bytes of a text, with or without its `=` padding. The last symbol may carry no
  bits beyond the last byte, and padding may only complete the last group of four;
* `Base64Url.DecodeError` — what is wrong with a text, with the byte and the offset where it shows.
-/

namespace WebAuthn.Base64Url

inductive DecodeError where
  /-- A byte outside the alphabet, or padding where none can stand. -/
  | invalidByte (byte : UInt8) (offset : Nat)
  /-- The last symbol has bits that belong to no byte. -/
  | invalidLastSymbol (byte : UInt8) (offset : Nat)
  /-- One symbol past a group of four: six bits make no byte. -/
  | invalidLength
  deriving DecidableEq, Repr

def DecodeError.message : DecodeError → String
  | .invalidByte byte offset => s!"Invalid byte {byte.toNat}, offset {offset}."
  | .invalidLastSymbol byte offset => s!"Invalid last symbol {byte.toNat}, offset {offset}."
  | .invalidLength => "Encoded text cannot have a 6-bit remainder."

/-! ### Symbols -/

def pad : UInt8 := 61

def symbol (value : Nat) : UInt8 :=
  if value < 26 then UInt8.ofNat (65 + value)
  else if value < 52 then UInt8.ofNat (71 + value)
  else if value < 62 then UInt8.ofNat (value - 4)
  else if value = 62 then 45
  else 95

def value? (byte : UInt8) : Option Nat :=
  let n := byte.toNat
  if 65 ≤ n ∧ n ≤ 90 then some (n - 65)
  else if 97 ≤ n ∧ n ≤ 122 then some (n - 71)
  else if 48 ≤ n ∧ n ≤ 57 then some (n + 4)
  else if n = 45 then some 62
  else if n = 95 then some 63
  else none

/-- Every six-bit value is read back from its symbol. -/
theorem value?_symbol {value : Nat} (h : value < 64) : value? (symbol value) = some value := by
  revert value
  decide

/-- No symbol is the padding byte. -/
theorem value?_pad : value? pad = none := by decide

/-! ### Groups of four symbols and three bytes -/

/-- The six-bit values of a byte string, the last one filled up with zero bits. -/
def sextets : Bytes → List Nat
  | [] => []
  | [a] => [a.toNat / 4, a.toNat % 4 * 16]
  | [a, b] => [a.toNat / 4, a.toNat % 4 * 16 + b.toNat / 16, b.toNat % 16 * 4]
  | a :: b :: c :: rest =>
    a.toNat / 4 :: (a.toNat % 4 * 16 + b.toNat / 16) :: (b.toNat % 16 * 4 + c.toNat / 64) ::
      c.toNat % 64 :: sextets rest

/-- The bytes of a list of six-bit values; bits that fill no byte are dropped. -/
def octets : List Nat → Bytes
  | a :: b :: c :: d :: rest =>
    UInt8.ofNat (a * 4 + b / 16) :: UInt8.ofNat (b % 16 * 16 + c / 4) ::
      UInt8.ofNat (c % 4 * 64 + d) :: octets rest
  | [a, b, c] => [UInt8.ofNat (a * 4 + b / 16), UInt8.ofNat (b % 16 * 16 + c / 4)]
  | [a, b] => [UInt8.ofNat (a * 4 + b / 16)]
  | _ => []

/-- The bits of the last value that `octets` drops. -/
def spareBits (values : List Nat) : Nat :=
  match values.length % 4 with
  | 2 => values.getLastD 0 % 16
  | 3 => values.getLastD 0 % 4
  | _ => 0

/-! ### Texts -/

/-- The symbols of a byte string. -/
def encodeBytes (bytes : Bytes) : Bytes :=
  (sextets bytes).map symbol

/-- The base64url text of a byte string, without padding. -/
def encode (bytes : Bytes) : String :=
  String.ofList ((encodeBytes bytes).map fun b => Char.ofNat b.toNat)

/-- Whether `count` symbols followed by `padding` are a complete text: padding completes the last group of
four and nothing else. -/
def padsGroup (count : Nat) (padding : Bytes) : Bool :=
  padding.all (· == pad) && 2 ≤ count % 4 && count % 4 + padding.length ≤ 4

/-- The bytes of a run of symbols, unless the last symbol has spare bits. -/
def decodeSymbols (symbols : Bytes) : Except DecodeError Bytes :=
  let values := symbols.filterMap value?
  if spareBits values = 0 then .ok (octets values)
  else .error (.invalidLastSymbol (symbols.getLastD 0) (symbols.length - 1))

/-- The bytes of a base64url text given as UTF-8. A text one symbol past a group of four is refused before
it is read, naming its last byte if that is no symbol. -/
def decodeBytes (text : Bytes) : Except DecodeError Bytes :=
  if text.length % 4 = 1 then
    let last := text.getLastD pad
    if last ≠ pad ∧ value? last = none then .error (.invalidByte last (text.length - 1))
    else .error .invalidLength
  else
    let symbols := text.takeWhile fun b => (value? b).isSome
    match text.dropWhile fun b => (value? b).isSome with
    | [] => decodeSymbols symbols
    | b :: rest =>
      if padsGroup symbols.length (b :: rest) then decodeSymbols symbols
      else .error (.invalidByte b symbols.length)

/-- The bytes of a base64url text. -/
def decode (text : String) : Except DecodeError Bytes :=
  decodeBytes (Utf8.encode text)

end WebAuthn.Base64Url
