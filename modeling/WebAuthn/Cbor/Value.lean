import WebAuthn.Bytes

/-!
# CBOR data items

* `Cbor.Value` — what an encoding of the supported part of CBOR denotes: no floating-point numbers, no
  simple values but the two booleans and null;
* `Cbor.Value.same` — equality as a test, exact by `Cbor.Value.same_iff`; it gives `DecidableEq`;
* `Cbor.Value.lookup`, `lookupText`, `lookupLabel` — the entry of a map under a key.
-/

namespace WebAuthn.Cbor

/-- A data item. Maps keep the order in which their entries are written. -/
inductive Value where
  | int (value : Int)
  | bytes (content : Bytes)
  | text (content : String)
  | array (items : List Value)
  | map (entries : List (Value × Value))
  | tag (number : Nat) (content : Value)
  | bool (value : Bool)
  | null
  deriving Inhabited

namespace Value

/-! ### Equality -/

mutual
def same : Value → Value → Bool
  | .int a, .int b => a == b
  | .bytes a, .bytes b => a == b
  | .text a, .text b => a == b
  | .array a, .array b => sameItems a b
  | .map a, .map b => sameEntries a b
  | .tag m a, .tag n b => m == n && same a b
  | .bool a, .bool b => a == b
  | .null, .null => true
  | _, _ => false

def sameItems : List Value → List Value → Bool
  | [], [] => true
  | a :: as, b :: bs => same a b && sameItems as bs
  | _, _ => false

def sameEntries : List (Value × Value) → List (Value × Value) → Bool
  | [], [] => true
  | (k, v) :: as, (l, w) :: bs => same k l && same v w && sameEntries as bs
  | _, _ => false
end

mutual
theorem same_iff : (a b : Value) → (same a b = true ↔ a = b)
  | .int a, b => by cases b <;> simp [same]
  | .bytes a, b => by cases b <;> simp [same]
  | .text a, b => by cases b <;> simp [same]
  | .array a, b => by cases b <;> simp [same, sameItems_iff a]
  | .map a, b => by cases b <;> simp [same, sameEntries_iff a]
  | .tag m a, b => by cases b <;> simp [same, same_iff a]
  | .bool a, b => by cases b <;> simp [same]
  | .null, b => by cases b <;> simp [same]

theorem sameItems_iff : (as bs : List Value) → (sameItems as bs = true ↔ as = bs)
  | [], bs => by cases bs <;> simp [sameItems]
  | a :: as, bs => by cases bs <;> simp [sameItems, same_iff a, sameItems_iff as]

theorem sameEntries_iff : (as bs : List (Value × Value)) → (sameEntries as bs = true ↔ as = bs)
  | [], bs => by cases bs <;> simp [sameEntries]
  | (k, v) :: as, bs => by
    cases bs with
    | nil => simp [sameEntries]
    | cons b bs =>
      obtain ⟨l, w⟩ := b
      simp [sameEntries, same_iff k, same_iff v, sameEntries_iff as, and_assoc]
end

instance : DecidableEq Value := fun a b => decidable_of_iff _ (same_iff a b)

/-! ### Entries of a map -/

/-- The value of the first entry under a key. -/
def lookup (key : Value) : List (Value × Value) → Option Value
  | [] => none
  | (k, v) :: rest => if k = key then some v else lookup key rest

def lookupText (key : String) (entries : List (Value × Value)) : Option Value :=
  lookup (.text key) entries

/-- The value under an integer key. -/
def lookupLabel (label : Int) (entries : List (Value × Value)) : Option Value :=
  lookup (.int label) entries

end Value

end WebAuthn.Cbor
