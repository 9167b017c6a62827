import WebAuthn.Json.Value

/-!
# Records in JSON

A record is written as an object of its fields or as the array of their values in declaration order.

* `Json.Record`, `Json.Record.ofValue?` — the fields of a value. No field may occur twice and every name has
  to be a text; members under other names are ignored, whatever they hold;
* `Record.required`, `Record.withDefault`, `Record.optional` — a field that has to be there, one that need
  not be, and one that may also be null;
* `Value.text?`, `bool?`, `integer?`, `list?` — the readers of single values;
* `Value.ofString`, `ofInt`, `ofFields` — the values to write.
-/

namespace WebAuthn.Json

/-! ### Single values -/

namespace Value

def text? : Value → Option String
  | .text pieces => Text.toString? pieces
  | _ => none

def bool? : Value → Option Bool
  | .bool value => some value
  | _ => none

/-- The integer of a number literal without fraction and exponent. Zero has no minus sign. -/
def integer? : Value → Option Int
  | .number literal =>
    let digits := afterMinus literal
    let magnitude := Decimal.ofDigits digits
    if !digits.all Decimal.isDigit then none
    else if digits.length = literal.length then some magnitude
    else if magnitude = 0 then none
    else some (-magnitude)
  | _ => none

/-- An integer within bounds. -/
def integerIn? (low high : Int) (value : Value) : Option Int :=
  value.integer?.bind fun n => if low ≤ n ∧ n ≤ high then some n else none

/-- The items of an array, each read in the same way. -/
def list? {α : Type} (read : Value → Option α) : Value → Option (List α)
  | .array items => items.mapM read
  | _ => none

def ofString (text : String) : Value :=
  .text (Text.ofString text)

def ofInt (n : Int) : Value :=
  .number (if n < 0 then 0x2d :: Decimal.digits n.natAbs else Decimal.digits n.natAbs)

def ofFields (fields : List (String × Value)) : Value :=
  .object (fields.map fun field => (Text.ofString field.1, field.2))

end Value

/-! ### Records -/

/-- The fields of a record that are there. -/
abbrev Record := List (String × Value)

namespace Record

/-- Whether no field occurs twice. -/
def distinct (names : List String) (fields : Record) : Bool :=
  names.all fun name => (fields.filter fun field => field.1 = name).length ≤ 1

/-- The fields of a value, which are declared under the given names. -/
def ofValue? (names : List String) : Value → Option Record
  | .object members => do
    let fields ← members.mapM fun member => (Text.toString? member.1).map fun name => (name, member.2)
    if distinct names fields then some fields else none
  | .array items => if items.length ≤ names.length then some (names.zip items) else none
  | _ => none

variable {α : Type}

def required (fields : Record) (name : String) (read : Value → Option α) : Option α :=
  (fields.lookup name).bind read

/-- A field that may be left out. -/
def withDefault (fields : Record) (name : String) (read : Value → Option α) (default : α) : Option α :=
  match fields.lookup name with
  | some value => read value
  | none => some default

/-- A field that may be left out or null. -/
def optional (fields : Record) (name : String) (read : Value → Option α) : Option (Option α) :=
  match fields.lookup name with
  | some .null => some none
  | some value => (read value).map some
  | none => some none

end Record

end WebAuthn.Json
