/-!
# TOML values

* `Toml.Value`, `Toml.Table` — values, and tables as their entries in the order of writing;
* `Toml.Table.assign?` — a table with one more `key = value` line;
* `Toml.Table.declare?` — a table with one more header.

No key is ever given twice, and the form of a table says who may add to it: dotted keys add to tables that dotted keys
made, headers to tables that headers made, and nothing adds to a table in braces.
-/

namespace WebAuthn.Toml

/-- How a table came to be. -/
inductive TableForm where
  /-- Written in braces. -/
  | inline
  /-- Made by a dotted key. -/
  | dotted
  /-- Made by the header of a table below it. -/
  | implied
  /-- Made by its own header. -/
  | declared
  deriving DecidableEq, Repr

/-- Whether headers can add to a table. -/
def TableForm.isOpen : TableForm → Bool
  | .inline => false
  | .dotted => false
  | .implied => true
  | .declared => true

inductive Value where
  | text (contents : String)
  | integer (value : Int64)
  /-- A number with a fraction or an exponent, an infinity, or not a number. Which one it is, is not kept. -/
  | real
  | bool (value : Bool)
  | array (items : List Value)
  | table (form : TableForm) (entries : List (String × Value))
  /-- An array of tables that headers made: the entries of the last table, and those of the earlier ones, latest
  first. -/
  | tables (last : List (String × Value)) (earlier : List (List (String × Value)))

abbrev Table := List (String × Value)

namespace Table

/-! ### Entries -/

def get? (table : Table) (key : String) : Option Value :=
  (table.find? fun entry => entry.1 = key).map (·.2)

/-- The table in which a key stands for what `change` makes of the value that it stands for now, if any. A new key is
written last. -/
def alter? (key : String) (change : Option Value → Option Value) : Table → Option Table
  | [] => (change none).map fun value => [(key, value)]
  | (name, value) :: rest =>
    if name = key then (change (some value)).map fun value => (name, value) :: rest
    else (alter? key change rest).map ((name, value) :: ·)

/-! ### Lines -/

/-- What a key stands for after a value is given to the dotted key below it; the key itself must be new, and what is
above it new or made by dotted keys. -/
def assignBelow? (value : Value) : List String → Option Value → Option Value
  | [], none => some value
  | [], some _ => none
  | key :: path, none => (assignBelow? value path none).map fun below => .table .dotted [(key, below)]
  | key :: path, some (.table .dotted entries) =>
    (alter? key (assignBelow? value path) entries).map (.table .dotted)
  | _ :: _, some _ => none

def assign? (table : Table) (path : List String) (value : Value) : Option Table :=
  match path with
  | [] => none
  | key :: path => alter? key (assignBelow? value path) table

/-! ### Headers -/

/-- What a key stands for after a header for the path below it. A header of an array of tables begins another one;
any other header makes a table, unless there is one that only headers below it have made. -/
def declareBelow? (repeated : Bool) : List String → Option Value → Option Value
  | [], none => some (if repeated then .tables [] [] else .table .declared [])
  | [], some (.table .implied entries) => if repeated then none else some (.table .declared entries)
  | [], some (.tables last earlier) => if repeated then some (.tables [] (last :: earlier)) else none
  | [], some _ => none
  | key :: path, none => (declareBelow? repeated path none).map fun below => .table .implied [(key, below)]
  | key :: path, some (.table form entries) =>
    if form.isOpen then (alter? key (declareBelow? repeated path) entries).map (.table form) else none
  | key :: path, some (.tables last earlier) =>
    (alter? key (declareBelow? repeated path) last).map fun last => .tables last earlier
  | _ :: _, some _ => none

/-- The table with a header. -/
def declare? (table : Table) (repeated : Bool) (path : List String) : Option Table :=
  match path with
  | [] => none
  | key :: path => alter? key (declareBelow? repeated path) table

/-! ### Lines below headers -/

/-- What a key stands for after a change to the table at a path below it, which for an array of tables is the
last one. -/
def changeBelow? (change : Table → Option Table) : List String → Option Value → Option Value
  | [], some (.table form entries) => (change entries).map (.table form)
  | [], some (.tables last earlier) => (change last).map fun last => .tables last earlier
  | key :: path, some (.table form entries) => (alter? key (changeBelow? change path) entries).map (.table form)
  | key :: path, some (.tables last earlier) =>
    (alter? key (changeBelow? change path) last).map fun last => .tables last earlier
  | _, _ => none

def change? (table : Table) (path : List String) (change : Table → Option Table) : Option Table :=
  match path with
  | [] => change table
  | key :: path => alter? key (changeBelow? change path) table

end Table

end WebAuthn.Toml
