/-!
# Punycode

Texts of any script in ASCII letters, digits and hyphens: the ASCII code points first, then the places of the others,
each as a number whose digits have values from 0 to 35 and thresholds that adapt to the numbers before.

* `Punycode.encode` — the ASCII form of a list of code points;
* `Punycode.decode?` — the code points of an ASCII form, if it is one.
-/

namespace WebAuthn.Punycode

/-! ### Digits and thresholds -/

/-- The letter or decimal digit of a value below 36. -/
def digit (value : Nat) : Char :=
  if value < 26 then Char.ofNat (97 + value) else Char.ofNat (22 + value)

/-- The value of a letter or decimal digit. -/
def value? (c : Char) : Option Nat :=
  let n := c.toNat
  if 97 ≤ n ∧ n ≤ 122 then some (n - 97)
  else if 65 ≤ n ∧ n ≤ 90 then some (n - 65)
  else if 48 ≤ n ∧ n ≤ 57 then some (n - 22)
  else none

theorem value?_digit {value : Nat} (h : value < 36) : value? (digit value) = some value := by
  revert value
  decide

def threshold (position bias : Nat) : Nat :=
  if position ≤ bias then 1 else if bias + 26 ≤ position then 26 else position - bias

theorem threshold_bounds (position bias : Nat) :
    1 ≤ threshold position bias ∧ threshold position bias ≤ 26 := by
  unfold threshold
  split
  · omega
  · split <;> omega

/-- Scales a number down to 455 and counts 36 for each step. -/
def scaleDown (n count : Nat) : Nat × Nat :=
  if h : 455 < n then scaleDown (n / 35) (count + 36) else (n, count)
termination_by n
decreasing_by omega

/-- The bias after a number that was written when `count` code points stood. -/
def adapt (number count : Nat) (first : Bool) : Nat :=
  let number := if first then number / 700 else number / 2
  let (n, k) := scaleDown (number + number / count) 0
  k + 36 * n / (n + 38)

/-- The bias before the first number. -/
def initialBias : Nat := 72

def firstCode : Nat := 128

/-! ### Writing -/

def digits (bias position n : Nat) : List Char :=
  if h : n < threshold position bias then [digit n]
  else
    digit (threshold position bias +
      (n - threshold position bias) % (36 - threshold position bias)) ::
    digits bias (position + 36) ((n - threshold position bias) / (36 - threshold position bias))
termination_by n
decreasing_by
  have hb := threshold_bounds position bias
  exact Nat.lt_of_le_of_lt (Nat.div_le_self _ _) (by omega)

/-- A text being encoded. -/
structure Encoding where
  written : List Char
  /-- The steps since the last number. -/
  delta : Nat
  bias : Nat
  /-- The code points that stand. -/
  count : Nat
  /-- Whether no number has been written. -/
  first : Bool

/-- Passes one code point of the text while those equal to `code` are placed. -/
def Encoding.pass (code : Nat) (e : Encoding) (c : Nat) : Encoding :=
  if c < code then { e with delta := e.delta + 1 }
  else if c = code then
    { written := e.written ++ digits e.bias 36 e.delta
      delta := 0
      bias := adapt e.delta (e.count + 1) e.first
      count := e.count + 1
      first := false }
  else e

/-- Places the code points of the text that are in a list, of which the first is at least `next`. -/
def Encoding.place (text : List Nat) : (codes : List Nat) → (next : Nat) → Encoding → Encoding
  | [], _, e => e
  | code :: rest, next, e =>
    let e := { e with delta := e.delta + (code - next) * (e.count + 1) }
    let e := text.foldl (Encoding.pass code) e
    place text rest (code + 1) { e with delta := e.delta + 1 }

/-- The distinct members of a list that are not ASCII, in ascending order. -/
def extendedCodes (text : List Nat) : List Nat :=
  ((text.filter (firstCode ≤ ·)).mergeSort).eraseReps

def encode (text : List Nat) : List Char :=
  let basic := text.filter (· < firstCode)
  let start := basic.map Char.ofNat ++ (if basic.isEmpty then [] else ['-'])
  (Encoding.place text (extendedCodes text) firstCode
    ⟨start, 0, initialBias, basic.length, true⟩).written

/-! ### Reading -/

/-- An ASCII form being decoded. -/
structure Decoding where
  text : List Nat
  code : Nat
  /-- The place of the next code point, as far as its digits have been read. -/
  place : Nat
  /-- The place where the number being read began. -/
  start : Nat
  weight : Nat
  position : Nat
  bias : Nat
  first : Bool

def isCharacter (code : Nat) : Bool :=
  code < 0xD800 || (0xE000 ≤ code && code < 0x110000)

/-- Reads one digit. The last digit of a number is the one below its threshold. -/
def Decoding.step (d : Decoding) (c : Char) : Option Decoding := do
  let value ← value? c
  let place := d.place + value * d.weight
  let limit := threshold d.position d.bias
  if value < limit then
    let count := d.text.length + 1
    let code := d.code + place / count
    let place := place % count
    if isCharacter code then
      some {
        text := d.text.take place ++ code :: d.text.drop place
        code := code
        place := place + 1
        start := place + 1
        weight := 1
        position := 36
        bias := adapt (d.place + value * d.weight - d.start) count d.first
        first := false }
    else none
  else
    some { d with place := place, weight := d.weight * (36 - limit), position := d.position + 36 }

/-- The ASCII code points of a form and the digits behind them. A hyphen separates the two if anything stands before
it. -/
def splitLast (form : List Char) : List Char × List Char :=
  let tail := (form.reverse.takeWhile (· ≠ '-')).reverse
  match (form.take (form.length - tail.length)).dropLast with
  | [] => ([], form)
  | basic => (basic, tail)

def decode? (form : List Char) : Option (List Nat) :=
  let (basic, extended) := splitLast form
  match extended.foldlM Decoding.step
      ⟨basic.map Char.toNat, firstCode, 0, 0, 1, 36, initialBias, true⟩ with
  | some d => if d.position = 36 then some d.text else none
  | none => none

end WebAuthn.Punycode
