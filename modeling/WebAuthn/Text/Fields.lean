/-!
# Fields of a text

* `Fields.split` — the fields between separators; `Fields.split_ne_nil` says that there is at least one, and
  `Fields.intercalate_split` that joining them gives the text back;
* `Fields.hexNumber` — the number that lower-case hexadecimal digits spell.
-/

namespace WebAuthn.Fields

/-- The fields between separators, in order; a text without separator is one field. -/
def split (separator : Char) : List Char → List (List Char)
  | [] => [[]]
  | c :: rest =>
    let fields := split separator rest
    if c = separator then [] :: fields
    else (c :: fields.headD []) :: fields.tail

theorem split_ne_nil (separator : Char) (text : List Char) : split separator text ≠ [] := by
  cases text with
  | nil => simp [split]
  | cons c rest =>
    simp only [split]
    split <;> simp

/-- Joining the fields gives the text back. -/
theorem intercalate_split (separator : Char) (text : List Char) :
    [separator].intercalate (split separator text) = text := by
  induction text with
  | nil => rfl
  | cons c rest ih =>
    obtain ⟨first, others, h⟩ := List.exists_cons_of_ne_nil (split_ne_nil separator rest)
    rw [h] at ih
    simp only [split, h]
    split
    · next hc =>
      rw [hc, ← ih]
      simp [List.intercalate, List.intersperse]
    · rw [← ih]
      cases others <;> simp [List.intercalate, List.intersperse]

/-- The value of a hexadecimal digit, lower case above nine. -/
def hexDigit (c : Char) : Nat :=
  if c.toNat ≤ '9'.toNat then c.toNat - '0'.toNat else c.toNat - 'a'.toNat + 10

def hexNumber (digits : List Char) : Nat :=
  digits.foldl (fun n c => 16 * n + hexDigit c) 0

end WebAuthn.Fields
