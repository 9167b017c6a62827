import WebAuthn.Json.Text
import WebAuthn.Number.Decimal

/-!
# JSON tokens

* `Json.Token` — brackets, separators, string literals, number literals and the three words;
* `Json.isNumber` — the grammar of number literals;
* `Json.Token.scan?` — the tokens of a byte string, read one byte at a time.

Outside string literals, a run of bytes that are neither blank nor punctuation has to be one word or one
number literal. Bytes of string literals are not looked at beyond what ends and escapes them.
-/

namespace WebAuthn.Json

/-- A token. Number literals are kept as they are written. -/
inductive Token where
  | openArray
  | closeArray
  | openObject
  | closeObject
  | comma
  | colon
  | text (text : Text)
  | number (literal : Bytes)
  | bool (value : Bool)
  | null
  deriving DecidableEq, Repr

/-! ### Numbers -/

/-- What follows the integer part of a number literal: a single zero, or digits that do not begin with
zero. -/
def afterInteger? : Bytes → Option Bytes
  | 0x30 :: rest => some rest
  | d :: rest => if Decimal.isDigit d then some (rest.dropWhile Decimal.isDigit) else none
  | [] => none

/-- What follows the digits, of which there is at least one. -/
def afterDigits? : Bytes → Option Bytes
  | d :: rest => if Decimal.isDigit d then some (rest.dropWhile Decimal.isDigit) else none
  | [] => none

def afterFraction? : Bytes → Option Bytes
  | 0x2e :: rest => afterDigits? rest
  | rest => some rest

/-- What follows the sign of an exponent, if there is one. -/
def afterSign : Bytes → Bytes
  | 0x2b :: rest => rest
  | 0x2d :: rest => rest
  | rest => rest

def afterExponent? : Bytes → Option Bytes
  | 0x65 :: rest => afterDigits? (afterSign rest)
  | 0x45 :: rest => afterDigits? (afterSign rest)
  | rest => some rest

/-- The literal without its minus sign. -/
def afterMinus : Bytes → Bytes
  | 0x2d :: rest => rest
  | rest => rest

def isNumber (literal : Bytes) : Bool :=
  ((afterInteger? (afterMinus literal)).bind afterFraction?).bind afterExponent? == some []

/-! ### Scanning -/

def isBlank (byte : UInt8) : Bool :=
  byte == 0x20 || byte == 0x0a || byte == 0x0d || byte == 0x09

def punctuation? (byte : UInt8) : Option Token :=
  match byte with
  | 0x5b => some .openArray
  | 0x5d => some .closeArray
  | 0x7b => some .openObject
  | 0x7d => some .closeObject
  | 0x2c => some .comma
  | 0x3a => some .colon
  | _ => none

def word? (word : Bytes) : Option Token :=
  if word = Utf8.encode "true" then some (.bool true)
  else if word = Utf8.encode "false" then some (.bool false)
  else if word = Utf8.encode "null" then some .null
  else if isNumber word then some (.number word)
  else none

def escaped? (letter : UInt8) : Option UInt8 :=
  match letter with
  | 0x22 => some 0x22
  | 0x5c => some 0x5c
  | 0x2f => some 0x2f
  | 0x62 => some 0x08
  | 0x66 => some 0x0c
  | 0x6e => some 0x0a
  | 0x72 => some 0x0d
  | 0x74 => some 0x09
  | _ => none

def hexValue? (byte : UInt8) : Option Nat :=
  let n := byte.toNat
  if 48 ≤ n ∧ n ≤ 57 then some (n - 48)
  else if 97 ≤ n ∧ n ≤ 102 then some (n - 87)
  else if 65 ≤ n ∧ n ≤ 70 then some (n - 55)
  else none

/-- Where a scanner stands. Runs are kept in reverse. -/
inductive Mode where
  /-- Between tokens. -/
  | between
  /-- In a run of bytes that are neither blank nor punctuation. -/
  | word (read : Bytes)
  /-- In a string literal. -/
  | text (read : Text)
  /-- Behind the backslash of an escape. -/
  | escape (read : Text)
  /-- In the hexadecimal digits of an escape, of which `missing` are still to come. -/
  | hex (read : Text) (missing code : Nat)
  deriving DecidableEq, Repr

/-- A scanner: the tokens read so far, in reverse, and where it stands. -/
structure Scanner where
  tokens : List Token
  mode : Mode
  deriving DecidableEq, Repr

namespace Scanner

def begin (tokens : List Token) (byte : UInt8) : Scanner :=
  if isBlank byte then ⟨tokens, .between⟩
  else if byte = 0x22 then ⟨tokens, .text []⟩
  else
    match punctuation? byte with
    | some token => ⟨token :: tokens, .between⟩
    | none => ⟨tokens, .word [byte]⟩

/-- Whether a byte ends a run. -/
def endsWord (byte : UInt8) : Bool :=
  isBlank byte || byte == 0x22 || (punctuation? byte).isSome

def step (scanner : Scanner) (byte : UInt8) : Option Scanner :=
  match scanner.mode with
  | .between => some (begin scanner.tokens byte)
  | .word read =>
    if endsWord byte then (word? read.reverse).map fun token => begin (token :: scanner.tokens) byte
    else some ⟨scanner.tokens, .word (byte :: read)⟩
  | .text read =>
    if byte = 0x22 then some ⟨.text read.reverse :: scanner.tokens, .between⟩
    else if byte = 0x5c then some ⟨scanner.tokens, .escape read⟩
    else if byte.toNat < 0x20 then none
    else some ⟨scanner.tokens, .text (.byte byte :: read)⟩
  | .escape read =>
    if byte = 0x75 then some ⟨scanner.tokens, .hex read 3 0⟩
    else (escaped? byte).map fun b => ⟨scanner.tokens, .text (.byte b :: read)⟩
  | .hex read missing code =>
    (hexValue? byte).map fun digit =>
      match missing with
      | 0 => ⟨scanner.tokens, .text (.unit (16 * code + digit) :: read)⟩
      | missing + 1 => ⟨scanner.tokens, .hex read missing (16 * code + digit)⟩

def finish (scanner : Scanner) : Option (List Token) :=
  match scanner.mode with
  | .between => some scanner.tokens.reverse
  | .word read => (word? read.reverse).map fun token => (token :: scanner.tokens).reverse
  | _ => none

end Scanner

def Token.scan? (input : Bytes) : Option (List Token) :=
  (input.foldlM Scanner.step ⟨[], .between⟩).bind Scanner.finish

end WebAuthn.Json
