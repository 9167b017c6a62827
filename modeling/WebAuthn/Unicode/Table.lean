import WebAuthn.Text.Fields

/-!
# Tables of code points

Tables are written as lines of rows separated by spaces, with all numbers in hexadecimal.

* `CodeRanges` — a set of code points. A row is `low-high` or a single code point;
* `CodeTable` — code points with values. A row is `low-high/step>value+value`, where the range may be a single
  code point and a step of one is left out.
-/

namespace WebAuthn

/-- The two ends of a range; a single number is both. -/
def rangeOfText (text : List Char) : Nat × Nat :=
  match Fields.split '-' text with
  | [low, high] => (Fields.hexNumber low, Fields.hexNumber high)
  | _ => (Fields.hexNumber text, Fields.hexNumber text)

/-! ### Sets -/

/-- A set of code points: the union of ranges, both ends included. -/
structure CodeRanges where
  ranges : List (Nat × Nat)

namespace CodeRanges

def contains (set : CodeRanges) (code : Nat) : Bool :=
  set.ranges.any fun range => range.1 ≤ code && code ≤ range.2

def ofLines (lines : List String) : CodeRanges :=
  ⟨lines.flatMap fun line => (Fields.split ' ' line.toList).map rangeOfText⟩

end CodeRanges

/-! ### Values -/

/-- Every `step`-th code point of a range, with values in common. -/
structure CodeRow where
  low : Nat
  high : Nat
  step : Nat
  values : List Nat

/-- Whether the row is one of the code point. -/
def CodeRow.covers (row : CodeRow) (code : Nat) : Bool :=
  row.low ≤ code && code ≤ row.high && (code - row.low) % row.step == 0

def CodeRow.ofText (text : List Char) : CodeRow :=
  match Fields.split '>' text with
  | [source, values] =>
    let values := (Fields.split '+' values).map Fields.hexNumber
    match Fields.split '/' source with
    | [range, step] => ⟨(rangeOfText range).1, (rangeOfText range).2, Fields.hexNumber step, values⟩
    | _ => ⟨(rangeOfText source).1, (rangeOfText source).2, 1, values⟩
  | _ => ⟨0, 0, 1, []⟩

/-- Code points with values. -/
structure CodeTable where
  rows : List CodeRow

namespace CodeTable

def find? (table : CodeTable) (code : Nat) : Option (Nat × List Nat) :=
  (table.rows.find? fun row => row.covers code).map fun row => (code - row.low, row.values)

/-- The table that the lines list. -/
def ofLines (lines : List String) : CodeTable :=
  ⟨lines.flatMap fun line => (Fields.split ' ' line.toList).map CodeRow.ofText⟩

end CodeTable

end WebAuthn
