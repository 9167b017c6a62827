/-!
# Arithmetic modulo a number

Residues are natural numbers below the modulus.

* `Modular.pow` — powers by repeated squaring;
* `Modular.inverse` — inverses modulo a prime, by Fermat's little theorem;
* `Modular.multiple` — multiples in any structure with an addition, by repeated doubling.
-/

namespace WebAuthn.Modular

def sub (modulus a b : Nat) : Nat :=
  (a + (modulus - b)) % modulus

def pow (modulus base exponent : Nat) : Nat :=
  if h : exponent = 0 then 1 % modulus
  else
    let square := pow modulus (base * base % modulus) (exponent / 2)
    if exponent % 2 = 1 then base * square % modulus else square
termination_by exponent
decreasing_by omega

/-- The inverse of a residue modulo a prime; zero for zero. -/
def inverse (prime a : Nat) : Nat :=
  pow prime a (prime - 2)

/-- The sum of `n` copies of `point` under an addition with the neutral element `zero`. -/
def multiple {α : Type} (add : α → α → α) (zero point : α) (n : Nat) : α :=
  if h : n = 0 then zero
  else
    let half := multiple add zero point (n / 2)
    let double := add half half
    if n % 2 = 1 then add double point else double
termination_by n
decreasing_by omega

/-- A power is the ordinary power reduced. -/
theorem pow_eq (modulus base exponent : Nat) :
    pow modulus base exponent = Nat.pow base exponent % modulus := by
  rw [Nat.pow_eq]
  fun_induction pow modulus base exponent with
  | case1 base => simp
  | case2 base exponent h square hodd ih =>
    have he : exponent = 2 * (exponent / 2) + 1 := by omega
    rw [show square = _ from ih]
    conv => rhs; rw [he, Nat.pow_succ, Nat.pow_mul, Nat.pow_two]
    rw [Nat.mul_mod base, Nat.mod_mod, ← Nat.mul_mod, Nat.mul_comm, Nat.mul_mod, Nat.pow_mod,
      Nat.mod_mod, ← Nat.pow_mod, ← Nat.mul_mod]
  | case3 base exponent h square heven ih =>
    have he : exponent = 2 * (exponent / 2) := by omega
    rw [show square = _ from ih]
    conv => rhs; rw [he, Nat.pow_mul, Nat.pow_two]
    rw [Nat.pow_mod, Nat.mod_mod, ← Nat.pow_mod]

end WebAuthn.Modular
