import WebAuthn.Number.Radix

/-!
# TOML tokens

* `Toml.Token` — punctuation, runs of blanks, line ends, words and string literals;
* `Toml.Literal` — a string literal that is being read;
* `Toml.Token.scan?` — the tokens of a text, read one character at a time.

A word is a run of letters, digits, `-` and `_`: a bare key, a boolean, or a piece of a number. Blanks are tokens,
since some neighbours, such as the two brackets that open an array of tables, must not be apart. Comments are not:
what follows a comment is the end of its line.
-/

namespace WebAuthn.Toml

inductive Token where
  | newline
  | blank
  | equals
  | period
  | comma
  | colon
  | plus
  | openBracket
  | closeBracket
  | openBrace
  | closeBrace
  | word (characters : List Char)
  /-- A string literal, on one line or between three quotes on each side. -/
  | text (contents : String) (block : Bool)
  deriving DecidableEq, Repr

/-! ### Characters -/

def isWordChar (c : Char) : Bool :=
  c.isAlphanum || c = '-' || c = '_'

/-- Whether a character can stand in a comment: all but the control characters below the blank, other than tab. -/
def isCommentChar (c : Char) : Bool :=
  c = '\t' || 0x20 ≤ c.toNat

/-- Whether a character can stand for itself in a string literal. -/
def isTextChar (c : Char) : Bool :=
  isCommentChar c && c.toNat ≠ 0x7f

def punctuation? (c : Char) : Option Token :=
  match c with
  | '\n' => some .newline
  | ' ' => some .blank
  | '\t' => some .blank
  | '=' => some .equals
  | '.' => some .period
  | ',' => some .comma
  | ':' => some .colon
  | '+' => some .plus
  | '[' => some .openBracket
  | ']' => some .closeBracket
  | '\x7b' => some .openBrace
  | '\x7d' => some .closeBrace
  | _ => none

def escaped? (letter : Char) : Option Char :=
  match letter with
  | '"' => some '"'
  | '\\' => some '\\'
  | 'b' => some '\x08'
  | 'f' => some '\x0c'
  | 'n' => some '\n'
  | 'r' => some '\r'
  | 't' => some '\t'
  | _ => none

/-- The number of hexadecimal digits behind the letter of an escape by number. -/
def escapeWidth? (letter : Char) : Option Nat :=
  match letter with
  | 'u' => some 4
  | 'U' => some 8
  | _ => none

/-- The character with a number, unless it is a surrogate or too large. -/
def charOfNumber? (code : Nat) : Option Char :=
  if code.isValidChar then some (Char.ofNat code) else none

/-! ### String literals -/

/-- A string literal that is being read. -/
structure Literal where
  /-- Whether it is in double quotes, so that backslashes escape. -/
  escapes : Bool
  /-- Whether it is between three quotes on each side, so that it can hold line ends. -/
  block : Bool
  /-- Its characters so far, in reverse. -/
  read : List Char
  deriving DecidableEq, Repr

namespace Literal

/-- The quote that ends it. -/
def quote (literal : Literal) : Char :=
  if literal.escapes then '"' else '\x27'

/-- The literal with one more character. -/
def push (literal : Literal) (c : Char) : Literal :=
  ⟨literal.escapes, literal.block, c :: literal.read⟩

/-- The literal with some more quotes. -/
def pushQuotes (literal : Literal) (count : Nat) : Literal :=
  ⟨literal.escapes, literal.block, List.replicate count literal.quote ++ literal.read⟩

def token (literal : Literal) : Token :=
  .text (String.ofList literal.read.reverse) literal.block

end Literal

/-! ### Scanning -/

/-- Where a scanner stands. -/
inductive Mode where
  /-- Between tokens. -/
  | between
  /-- In a comment. -/
  | comment
  /-- In a word, whose characters are in reverse. -/
  | word (read : List Char)
  /-- Behind the first quote of a literal. -/
  | opening (literal : Literal)
  /-- Behind two quotes: the literal is empty unless a third one follows. -/
  | openingBlock (literal : Literal)
  /-- Behind the three quotes that open a literal; a line end that comes first does not belong to it. -/
  | blockStart (literal : Literal)
  /-- In a literal. -/
  | text (literal : Literal)
  /-- In a literal between three quotes, behind some quotes. -/
  | closing (literal : Literal) (quotes : Nat)
  /-- Behind the backslash of an escape. -/
  | escape (literal : Literal)
  /-- In the hexadecimal digits of an escape, of which some are missing. -/
  | hex (literal : Literal) (missing code : Nat)
  /-- Behind a backslash and blanks, where only a line end can follow. -/
  | lineEnd (literal : Literal)
  /-- Behind an escaped line end, with the blanks and line ends after it. -/
  | continuation (literal : Literal)
  deriving DecidableEq, Repr

/-- A scanner: the tokens read so far, in reverse, and where it stands. -/
structure Scanner where
  tokens : List Token
  mode : Mode
  deriving DecidableEq, Repr

namespace Scanner

/-- A character between tokens. -/
def begin? (tokens : List Token) (c : Char) : Option Scanner :=
  if c = '#' then some ⟨tokens, .comment⟩
  else if c = '"' then some ⟨tokens, .opening ⟨true, false, []⟩⟩
  else if c = '\x27' then some ⟨tokens, .opening ⟨false, false, []⟩⟩
  else if isWordChar c then some ⟨tokens, .word [c]⟩
  else (punctuation? c).map fun token => ⟨token :: tokens, .between⟩

/-- A character in a literal. -/
def inText? (tokens : List Token) (literal : Literal) (c : Char) : Option Scanner :=
  if c = literal.quote then
    if literal.block then some ⟨tokens, .closing literal 1⟩ else some ⟨literal.token :: tokens, .between⟩
  else if c = '\n' then
    if literal.block then some ⟨tokens, .text (literal.push c)⟩ else none
  else if literal.escapes ∧ c = '\\' then some ⟨tokens, .escape literal⟩
  else if isTextChar c then some ⟨tokens, .text (literal.push c)⟩
  else none

/-- A character behind a backslash. -/
def inEscape? (tokens : List Token) (literal : Literal) (c : Char) : Option Scanner :=
  match escaped? c, escapeWidth? c with
  | some e, _ => some ⟨tokens, .text (literal.push e)⟩
  | none, some width => some ⟨tokens, .hex literal width 0⟩
  | none, none =>
    if literal.block then
      if c = '\n' then some ⟨tokens, .continuation literal⟩
      else if c = ' ' ∨ c = '\t' then some ⟨tokens, .lineEnd literal⟩
      else none
    else none

/-- A character among the digits of an escape. -/
def inHex? (tokens : List Token) (literal : Literal) (missing code : Nat) (c : Char) : Option Scanner :=
  (Radix.digitValue? 16 c).bind fun digit =>
    if missing ≤ 1 then
      (charOfNumber? (16 * code + digit)).map fun e => ⟨tokens, .text (literal.push e)⟩
    else some ⟨tokens, .hex literal (missing - 1) (16 * code + digit)⟩

/-- A character behind quotes in a literal between three quotes: the literal ends with the last three of up to five
quotes in a row. -/
def inClosing? (tokens : List Token) (literal : Literal) (quotes : Nat) (c : Char) : Option Scanner :=
  if c = literal.quote then
    -- at most two quotes of a row belong to the text
    if quotes = 4 then some ⟨(literal.pushQuotes 2).token :: tokens, .between⟩
    else some ⟨tokens, .closing literal (quotes + 1)⟩
  else if quotes < 3 then inText? tokens (literal.pushQuotes quotes) c
  else begin? ((literal.pushQuotes (quotes - 3)).token :: tokens) c

def step (scanner : Scanner) (c : Char) : Option Scanner :=
  let tokens := scanner.tokens
  match scanner.mode with
  | .between => begin? tokens c
  | .comment =>
    if c = '\n' then some ⟨.newline :: tokens, .between⟩
    else if isCommentChar c then some scanner
    else none
  | .word read =>
    if isWordChar c then some ⟨tokens, .word (c :: read)⟩ else begin? (.word read.reverse :: tokens) c
  | .opening literal =>
    if c = literal.quote then some ⟨tokens, .openingBlock literal⟩ else inText? tokens literal c
  | .openingBlock literal =>
    if c = literal.quote then some ⟨tokens, .blockStart ⟨literal.escapes, true, []⟩⟩
    else begin? (literal.token :: tokens) c
  | .blockStart literal =>
    if c = '\n' then some ⟨tokens, .text literal⟩ else inText? tokens literal c
  | .text literal => inText? tokens literal c
  | .closing literal quotes => inClosing? tokens literal quotes c
  | .escape literal => inEscape? tokens literal c
  | .hex literal missing code => inHex? tokens literal missing code c
  | .lineEnd literal =>
    if c = ' ' ∨ c = '\t' then some scanner
    else if c = '\n' then some ⟨tokens, .continuation literal⟩
    else none
  | .continuation literal =>
    if c = ' ' ∨ c = '\t' ∨ c = '\n' then some scanner else inText? tokens literal c

def finish (scanner : Scanner) : Option (List Token) :=
  let tokens := scanner.tokens
  match scanner.mode with
  | .between => some tokens.reverse
  | .comment => some tokens.reverse
  | .word read => some (.word read.reverse :: tokens).reverse
  | .openingBlock literal => some (literal.token :: tokens).reverse
  | .closing literal quotes =>
    if quotes < 3 then none else some ((literal.pushQuotes (quotes - 3)).token :: tokens).reverse
  | _ => none

end Scanner

/-- The characters with each carriage return and line feed as one line feed. -/
def foldLineEnds : List Char → List Char
  | [] => []
  | '\r' :: '\n' :: rest => '\n' :: foldLineEnds rest
  | c :: rest => c :: foldLineEnds rest

/-- The characters behind a byte order mark, if there is one. -/
def dropMark : List Char → List Char
  | '\ufeff' :: rest => rest
  | rest => rest

def Token.scan? (text : String) : Option (List Token) :=
  ((foldLineEnds (dropMark text.toList)).foldlM Scanner.step ⟨[], .between⟩).bind Scanner.finish

end WebAuthn.Toml
