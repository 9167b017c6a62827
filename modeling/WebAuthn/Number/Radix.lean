/-!
# Numbers in a base of at most sixteen

* `Radix.digitValue?` — the value of a digit, whose letters can be of either case;
* `Radix.ofDigits?` — the number that digits spell, the first one weighing most.
-/

namespace WebAuthn.Radix

def digitValue? (base : Nat) (c : Char) : Option Nat :=
  let n := c.toNat
  let value :=
    if 48 ≤ n ∧ n ≤ 57 then n - 48
    else if 97 ≤ n ∧ n ≤ 102 then n - 87
    else if 65 ≤ n ∧ n ≤ 70 then n - 55
    else base
  if value < base then some value else none

def ofDigits? (base : Nat) (digits : List Char) : Option Nat :=
  digits.foldlM (fun n c => (digitValue? base c).map (base * n + ·)) 0

/-- A digit is worth less than its base. -/
theorem lt_of_digitValue? {base d : Nat} {c : Char} (h : digitValue? base c = some d) : d < base := by
  simp only [digitValue?, Option.ite_none_right_eq_some, Option.some.injEq] at h
  exact h.2 ▸ h.1

end WebAuthn.Radix
