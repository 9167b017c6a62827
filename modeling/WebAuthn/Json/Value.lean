import WebAuthn.Json.Token

/-!
# JSON values

* `Json.Value` — what a JSON text denotes; members keep their order, and a name may occur more than once;
* `Json.Value.ofTokens?`, `Json.parse?` — the value of a token list and of a byte string. Open containers are
  kept on a stack, so that nesting may be as deep as the input is long;
* `Json.Value.tokens`, `Json.render` — the tokens of a value and its most compact text.
-/

namespace WebAuthn.Json

/-- A JSON value. Number and string literals are kept as they are written. -/
inductive Value where
  | null
  | bool (value : Bool)
  | number (literal : Bytes)
  | text (text : Text)
  | array (items : List Value)
  | object (members : List (Text × Value))
  deriving Inhabited

/-! ### From tokens -/

/-- A container that waits for a value; what stands before it is kept in reverse. -/
inductive Frame where
  | array (before : List Value)
  | object (before : List (Text × Value)) (name : Text)

/-- What is expected next, with the containers around it. -/
inductive Expecting where
  /-- A value. -/
  | value (around : List Frame)
  /-- The first item of an array, or its end. -/
  | firstItem (around : List Frame)
  /-- The first name of an object, or its end. -/
  | firstName (around : List Frame)
  /-- A further name of an object. -/
  | name (before : List (Text × Value)) (around : List Frame)
  /-- The colon behind a name. -/
  | colon (before : List (Text × Value)) (name : Text) (around : List Frame)
  /-- What follows a value: a comma, the end of the container, or nothing. -/
  | after (value : Value) (around : List Frame)

namespace Expecting

/-- The step over the first token of a value. -/
def beginValue (around : List Frame) : Token → Option Expecting
  | .openArray => some (.firstItem around)
  | .openObject => some (.firstName around)
  | .text pieces => some (.after (.text pieces) around)
  | .number literal => some (.after (.number literal) around)
  | .bool b => some (.after (.bool b) around)
  | .null => some (.after .null around)
  | _ => none

def step : Expecting → Token → Option Expecting
  | .value around, token => beginValue around token
  | .firstItem around, .closeArray => some (.after (.array []) around)
  | .firstItem around, token => beginValue (.array [] :: around) token
  | .firstName around, .closeObject => some (.after (.object []) around)
  | .firstName around, .text pieces => some (.colon [] pieces around)
  | .name before around, .text pieces => some (.colon before pieces around)
  | .colon before pieces around, .colon => some (.value (.object before pieces :: around))
  | .after v (.array before :: around), .comma => some (.value (.array (v :: before) :: around))
  | .after v (.array before :: around), .closeArray =>
    some (.after (.array (v :: before).reverse) around)
  | .after v (.object before pieces :: around), .comma =>
    some (.name ((pieces, v) :: before) around)
  | .after v (.object before pieces :: around), .closeObject =>
    some (.after (.object ((pieces, v) :: before).reverse) around)
  | _, _ => none

/-- The value, if one has been read and no container is open. -/
def finish : Expecting → Option Value
  | .after v [] => some v
  | _ => none

end Expecting

def Value.ofTokens? (tokens : List Token) : Option Value :=
  (tokens.foldlM Expecting.step (.value [])).bind Expecting.finish

def parse? (input : Bytes) : Option Value :=
  (Token.scan? input).bind Value.ofTokens?

/-! ### To text -/

mutual
def Value.tokens : Value → List Token
  | .null => [.null]
  | .bool value => [.bool value]
  | .number literal => [.number literal]
  | .text text => [.text text]
  | .array [] => [.openArray, .closeArray]
  | .array (item :: rest) => .openArray :: (item.tokens ++ itemTokens rest)
  | .object [] => [.openObject, .closeObject]
  | .object ((name, value) :: rest) =>
    .openObject :: .text name :: .colon :: (value.tokens ++ memberTokens rest)

/-- The tokens of the further items of an array, and of its end. -/
def itemTokens : List Value → List Token
  | [] => [.closeArray]
  | item :: rest => .comma :: (item.tokens ++ itemTokens rest)

/-- The tokens of the further members of an object, and of its end. -/
def memberTokens : List (Text × Value) → List Token
  | [] => [.closeObject]
  | (name, value) :: rest => .comma :: .text name :: .colon :: (value.tokens ++ memberTokens rest)
end

/-- The lower-case hexadecimal digit of a value below sixteen. -/
def hexDigit (value : Nat) : UInt8 :=
  UInt8.ofNat (if value < 10 then 48 + value else 87 + value)

def escapeUnit (code : Nat) : Bytes :=
  [0x5c, 0x75, hexDigit (code / 4096 % 16), hexDigit (code / 256 % 16), hexDigit (code / 16 % 16),
    hexDigit (code % 16)]

/-- The text of a piece of a string literal: quotes, backslashes and control characters are escaped, the
latter by a letter where there is one. -/
def Piece.render : Piece → Bytes
  | .unit code => escapeUnit code
  | .byte b =>
    match b with
    | 0x22 => [0x5c, 0x22]
    | 0x5c => [0x5c, 0x5c]
    | 0x08 => [0x5c, 0x62]
    | 0x09 => [0x5c, 0x74]
    | 0x0a => [0x5c, 0x6e]
    | 0x0c => [0x5c, 0x66]
    | 0x0d => [0x5c, 0x72]
    | b => if b.toNat < 0x20 then escapeUnit b.toNat else [b]

def Token.render : Token → Bytes
  | .openArray => [0x5b]
  | .closeArray => [0x5d]
  | .openObject => [0x7b]
  | .closeObject => [0x7d]
  | .comma => [0x2c]
  | .colon => [0x3a]
  | .text pieces => 0x22 :: (pieces.flatMap Piece.render ++ [0x22])
  | .number literal => literal
  | .bool true => Utf8.encode "true"
  | .bool false => Utf8.encode "false"
  | .null => Utf8.encode "null"

/-- The text of a value, without blanks. -/
def render (value : Value) : Bytes :=
  value.tokens.flatMap Token.render

end WebAuthn.Json
