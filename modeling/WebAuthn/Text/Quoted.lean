import WebAuthn.Unicode.Unprintable

/-!
# Texts in quotes

* `Quoted.text` — a text in double quotes on one line: quotes, backslashes, the usual control characters and
  NUL have two-character escapes, and every other unprintable character is written by its number;
* `Quoted.list` — a list of texts in brackets.
-/

namespace WebAuthn.Quoted

/-- The lower-case hexadecimal digits of a code point. -/
def hexDigits (code : Nat) : List Char :=
  Nat.toDigits 16 code

/-- How a character stands between quotes. -/
def escape (c : Char) : List Char :=
  match c with
  | '"' => ['\\', '"']
  | '\\' => ['\\', '\\']
  | '\n' => ['\\', 'n']
  | '\r' => ['\\', 'r']
  | '\t' => ['\\', 't']
  | '\x00' => ['\\', '0']
  | c =>
    if unprintable.contains c.toNat then
      ['\\', 'u', '\x7b'] ++ hexDigits c.toNat ++ ['\x7d']
    else [c]

/-- A text in double quotes. -/
def text (content : String) : String :=
  String.ofList ('"' :: (content.toList.flatMap escape ++ ['"']))

/-- A list of texts, each in double quotes, in brackets. -/
def list (contents : List String) : String :=
  "[" ++ ", ".intercalate (contents.map text) ++ "]"

end WebAuthn.Quoted
