import WebAuthn.Text.Utf8

/-!
# String literals

A literal is kept as it is written, piece by piece, because a member that nobody asks for may hold a literal
that spells no text.

* `Json.Piece`, `Json.Text` — the pieces of a literal: bytes, and UTF-16 units written in hexadecimal;
* `Json.Text.toString?` — the text that a literal spells. Surrogate units have to come in pairs, and the
  bytes have to be UTF-8;
* `Json.Text.ofString` — a literal of a text; `toString?_ofString` reads it back.
-/

namespace WebAuthn.Json

/-- A piece of a string literal. -/
inductive Piece where
  /-- A byte, as it stands or under a one-letter escape. -/
  | byte (value : UInt8)
  /-- A unit written with four hexadecimal digits. -/
  | unit (code : Nat)
  deriving DecidableEq, Repr

/-- A string literal. -/
abbrev Text := List Piece

namespace Text

/-- The UTF-8 bytes of a code point. -/
def codePoint (code : Nat) : Bytes :=
  Utf8.encode (String.singleton (Char.ofNat code))

/-- Whether a unit is the first of a surrogate pair. -/
def isHighSurrogate (code : Nat) : Bool :=
  0xD800 ≤ code && code < 0xDC00

/-- Whether a unit is the second of a surrogate pair. -/
def isLowSurrogate (code : Nat) : Bool :=
  0xDC00 ≤ code && code < 0xE000

/-- The code point of a surrogate pair. -/
def pair (high low : Nat) : Nat :=
  0x10000 + (high - 0xD800) * 0x400 + (low - 0xDC00)

/-- The bytes that a literal spells, unless a surrogate stands alone. -/
def bytes? : Text → Option Bytes
  | [] => some []
  | .byte b :: rest => (bytes? rest).map (b :: ·)
  | .unit high :: .unit low :: rest =>
    if isHighSurrogate high then
      if isLowSurrogate low then (bytes? rest).map (codePoint (pair high low) ++ ·) else none
    else if isLowSurrogate high then none
    else (bytes? (.unit low :: rest)).map (codePoint high ++ ·)
  | .unit code :: rest =>
    if isHighSurrogate code || isLowSurrogate code then none
    else (bytes? rest).map (codePoint code ++ ·)

/-- The text that a literal spells. -/
def toString? (text : Text) : Option String :=
  (bytes? text).bind Utf8.decode?

/-- The literal that spells a text byte by byte. -/
def ofString (text : String) : Text :=
  (Utf8.encode text).map .byte

theorem bytes?_map_byte (bytes : Bytes) : bytes? (bytes.map .byte) = some bytes := by
  induction bytes with
  | nil => rfl
  | cons b rest ih => simp [bytes?, ih]

theorem toString?_ofString (text : String) : toString? (ofString text) = some text := by
  rw [toString?, ofString, bytes?_map_byte, Option.bind_some, Utf8.decode?_eq_some_iff]

end Text

end WebAuthn.Json
