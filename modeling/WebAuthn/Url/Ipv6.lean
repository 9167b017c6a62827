import WebAuthn.Url.Ipv4

/-!
# Addresses of eight pieces

* `Ipv6.parse?` — the pieces of an address: one to four hexadecimal digits between colons, the last two perhaps as
  four decimal bytes, and `::` in place of one or more pieces of zero;
* `Ipv6.toText` — the pieces in lower case, with `::` for the first longest run of at least two zeros.
-/

namespace WebAuthn.Ipv6

def piece? (digits : List Char) : Option Nat :=
  if 1 ≤ digits.length ∧ digits.length ≤ 4 then Radix.ofDigits? 16 digits else none

/-- The byte of decimal digits without a leading zero. -/
def byte? (digits : List Char) : Option Nat :=
  match digits with
  | [] => none
  | '0' :: _ :: _ => none
  | _ => (Radix.ofDigits? 10 digits).bind fun n => if n < 256 then some n else none

/-- The two pieces of four decimal bytes. -/
def bytePieces? (text : List Char) : Option (List Nat) :=
  match (Fields.split '.' text).mapM byte? with
  | some [a, b, c, d] => some [256 * a + b, 256 * c + d]
  | _ => none

/-- The pieces between colons; the last may be four decimal bytes if nothing follows. -/
def pieces? (atEnd : Bool) : List (List Char) → Option (List Nat)
  | [] => some []
  | [last] =>
    if atEnd && last.contains '.' then bytePieces? last else (piece? last).map fun piece => [piece]
  | group :: rest => do
    let piece ← piece? group
    let pieces ← pieces? atEnd rest
    return piece :: pieces

/-- The pieces of a text; an empty text has none. -/
def side? (atEnd : Bool) (text : List Char) : Option (List Nat) :=
  if text.isEmpty then some [] else pieces? atEnd (Fields.split ':' text)

/-- The parts of a text before and behind the first double colon. -/
def splitDouble? : List Char → Option (List Char × List Char)
  | [] => none
  | ':' :: ':' :: rest => some ([], rest)
  | c :: rest => (splitDouble? rest).map fun (front, back) => (c :: front, back)

def parse? (text : List Char) : Option (List Nat) :=
  match splitDouble? text with
  | some (front, back) => do
    let front ← side? false front
    let back ← side? true back
    let missing := 8 - (front.length + back.length)
    if 1 ≤ missing then some (front ++ List.replicate missing 0 ++ back) else none
  | none => do
    let pieces ← side? true text
    if pieces.length = 8 then some pieces else none

/-! ### Writing -/

/-- The number of zeros that begin a list. -/
def zeros (pieces : List Nat) : Nat :=
  (pieces.takeWhile (· = 0)).length

/-- The length of the longest run of zeros. -/
def longestRun : List Nat → Nat
  | [] => 0
  | piece :: rest => max (zeros (piece :: rest)) (longestRun rest)

/-- The pieces between colons. -/
def joined (pieces : List Nat) : List Char :=
  [':'].intercalate (pieces.map (Nat.toDigits 16))

/-- The pieces before the first run of zeros of a length, and those behind it. -/
def splitRun (length : Nat) : List Nat → List Nat × List Nat
  | [] => ([], [])
  | piece :: rest =>
    if zeros (piece :: rest) = length then ([], (piece :: rest).drop length)
    else
      let (front, back) := splitRun length rest
      (piece :: front, back)

def toText (pieces : List Nat) : String :=
  let run := longestRun pieces
  if run < 2 then String.ofList (joined pieces)
  else
    let (front, back) := splitRun run pieces
    String.ofList (joined front ++ [':', ':'] ++ joined back)

end WebAuthn.Ipv6
