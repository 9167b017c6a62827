import WebAuthn.Bytes

/-!
# A pair of numbers in DER

The signature format of ES256: a sequence of two non-negative integers, each in its shortest two's complement
form. Both numbers have at most 32 bytes, so every length is a single byte below 128.

* `Der.encodePair`, `Der.decodePair?`.
-/

namespace WebAuthn.Der

/-- The big-endian digits of a number without leading zeros; none for zero. -/
def digits (n : Nat) : Bytes :=
  if _h : n = 0 then [] else digits (n / 256) ++ [UInt8.ofNat n]
termination_by n
decreasing_by omega

/-- The content of an integer: a zero byte in front where the first digit would be read as a sign. -/
def integerContent (n : Nat) : Bytes :=
  match digits n with
  | [] => [0]
  | b :: rest => if b < 0x80 then b :: rest else 0 :: b :: rest

/-- A tag, a one-byte length, and the content. -/
def element (tag : UInt8) (content : Bytes) : Bytes :=
  tag :: UInt8.ofNat content.length :: content

/-- The encoding of two numbers. -/
def encodePair (r s : Nat) : Bytes :=
  element 0x30 (element 0x02 (integerContent r) ++ element 0x02 (integerContent s))

/-- The content behind a tag and a one-byte length, and what follows it. -/
def splitElement? (tag : UInt8) : Bytes → Option (Bytes × Bytes)
  | t :: length :: rest =>
    if t = tag ∧ length < 0x80 ∧ length.toNat ≤ rest.length then
      some (rest.take length.toNat, rest.drop length.toNat)
    else none
  | _ => none

/-- The number of an integer's content, if it is non-negative and in shortest form. -/
def integer? : Bytes → Option Nat
  | [] => none
  | [b] => if b < 0x80 then some b.toNat else none
  | b :: c :: rest =>
    if b ≥ 0x80 then none
    else if b = 0 ∧ c < 0x80 then none
    else some (Bytes.toNat (b :: c :: rest))

/-- The two numbers of an encoding with nothing left over at any level. -/
def decodePair? (bytes : Bytes) : Option (Nat × Nat) := do
  let (body, after) ← splitElement? 0x30 bytes
  let (r, rest) ← splitElement? 0x02 body
  let (s, rest) ← splitElement? 0x02 rest
  if after.isEmpty && rest.isEmpty then
    return (← integer? r, ← integer? s)
  else none

end WebAuthn.Der
