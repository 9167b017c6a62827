import WebAuthn.Text.Fields
import WebAuthn.Toml.Token
import WebAuthn.Toml.Value

/-!
# TOML numbers

* `Toml.digits?` — the run of digits at the beginning of a word, with what is left of the word;
* `Toml.integer?` — the integer that a word spells;
* `Toml.isFinite` — whether a decimal number rounds to a finite binary one of 64 bits;
* `Toml.number?` — the number that begins with a word, with the tokens after it.

A number with a fraction or a positive exponent takes more than one token: `1.5e+3` is a word, a period, a word, a
plus and a word.
-/

namespace WebAuthn.Toml

/-! ### Digits -/

/-- The digits of a base at the beginning of a word, and what is left of the word. There is at least one digit;
single underscores can stand between digits; and where `padded` does not hold, only the digit zero begins with
zero. -/
def digits? (base : Nat) (padded : Bool) (word : List Char) : Option (List Char × List Char) :=
  let belongs := fun c => c = '_' || (Radix.digitValue? base c).isSome
  let groups := Fields.split '_' (word.takeWhile belongs)
  let digits := groups.flatten
  if groups.any List.isEmpty then none
  else if !padded && digits.head? = some '0' && digits.length ≠ 1 then none
  else some (digits, word.dropWhile belongs)

/-- Whether a word begins with a minus sign, and what is behind it. -/
def sign : List Char → Bool × List Char
  | '-' :: rest => (true, rest)
  | word => (false, word)

/-! ### Integers -/

/-- The signed 64-bit integer with a sign and digits, if it is in range. -/
def int64? (negative : Bool) (base : Nat) (digits : List Char) : Option Int64 :=
  (Radix.ofDigits? base digits).bind fun n =>
    let value : Int := if negative then -n else n
    if Int64.minValue.toInt ≤ value ∧ value ≤ Int64.maxValue.toInt then some (Int64.ofInt value) else none

/-- The integer of digits of a base, which can begin with zeros. -/
def padded? (base : Nat) (word : List Char) : Option Int64 :=
  match digits? base true word with
  | some (digits, []) => int64? false base digits
  | _ => none

def integer? (word : List Char) : Option Int64 :=
  match digits? 10 false (sign word).2 with
  | some (digits, []) => int64? (sign word).1 10 digits
  | _ => none

/-! ### Other numbers -/

/-- Whether digits, weighed by a power of ten, round to a finite number of 64 bits. The least that does not lies
half-way between the largest such number and the 1024th power of two. -/
def isFinite (digits : List Char) (scale : Int) : Bool :=
  let n := (Radix.ofDigits? 10 digits).getD 0
  let limit := Nat.pow 2 1024 - Nat.pow 2 970
  if n = 0 then true
  else if 0 ≤ scale then scale < 400 && n * Nat.pow 10 scale.toNat < limit
  else digits.length ≤ scale.natAbs || n < limit * Nat.pow 10 scale.natAbs

/-- The exponent that begins with what is left of a word, and the tokens after it. An exponent with a plus sign is
spread over tokens. -/
def exponent? (left : List Char) (tokens : List Token) : Option (Int × List Token) :=
  let value := fun negative digits =>
    let n : Int := (Radix.ofDigits? 10 digits).getD 0
    if negative then -n else n
  let unsigned := fun word tokens =>
    match digits? 10 true word with
    | some (digits, []) => some (value false digits, tokens)
    | _ => none
  match left, tokens with
  | [], tokens => some (0, tokens)
  | [_], .plus :: .word word :: tokens => unsigned word tokens
  | [_], .word word :: tokens => unsigned word tokens
  | [_], _ => none
  | _ :: word, tokens =>
    match digits? 10 true (sign word).2 with
    | some (digits, []) => some (value (sign word).1 digits, tokens)
    | _ => none

/-- Whether what is left of a word is nothing or begins an exponent. -/
def beginsExponent (left : List Char) : Bool :=
  match left with
  | [] => true
  | c :: _ => c = 'e' || c = 'E'

/-- The number of digits before and behind the period, and an exponent. -/
def real? (whole fraction left : List Char) (tokens : List Token) : Option (Value × List Token) :=
  if beginsExponent left then
    (exponent? left tokens).bind fun (exponent, tokens) =>
      if isFinite (whole ++ fraction) (exponent - fraction.length) then some (.real, tokens) else none
  else none

/-- The number without fraction that begins with a word. -/
def withoutFraction? (word : List Char) (tokens : List Token) : Option (Value × List Token) :=
  (digits? 10 false (sign word).2).bind fun (whole, left) => real? whole [] left tokens

/-- The number of a word and the word behind a period. -/
def withFraction? (word behind : List Char) (tokens : List Token) : Option (Value × List Token) :=
  match digits? 10 false (sign word).2, digits? 10 true behind with
  | some (whole, []), some (fraction, left) => real? whole fraction left tokens
  | _, _ => none

def isSpecial (word : List Char) : Bool :=
  (sign word).2 = ['i', 'n', 'f'] || (sign word).2 = ['n', 'a', 'n']

/-- The number that begins with a word, and the tokens after it. -/
def number? (word : List Char) (tokens : List Token) : Option (Value × List Token) :=
  let integer := fun (value : Option Int64) => value.map fun n => (Value.integer n, tokens)
  match word with
  | '0' :: 'x' :: digits => integer (padded? 16 digits)
  | '0' :: 'o' :: digits => integer (padded? 8 digits)
  | '0' :: 'b' :: digits => integer (padded? 2 digits)
  | word =>
    if word.any fun c => c = 'e' || c = 'E' then withoutFraction? word tokens
    else
      match tokens with
      | .period :: .word behind :: tokens => withFraction? word behind tokens
      | .period :: _ => none
      | tokens => if isSpecial word then some (.real, tokens) else integer (integer? word)

end WebAuthn.Toml
