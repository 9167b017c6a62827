import WebAuthn.Bytes

/-!
# Decimal digits

* `Decimal.isDigit`, `Decimal.digits`, `Decimal.ofDigits` — the digit bytes and the number that they spell;
* `Decimal.ofDigits_digits` — the digits of a number spell it.
-/

namespace WebAuthn.Decimal

def isDigit (byte : UInt8) : Bool :=
  48 ≤ byte.toNat && byte.toNat ≤ 57

def digitValue (byte : UInt8) : Nat :=
  byte.toNat - 48

def ofDigits (digits : Bytes) : Nat :=
  digits.foldl (fun n d => 10 * n + digitValue d) 0

/-- The digits of a number, without leading zeros; zero has one digit. -/
def digits (n : Nat) : Bytes :=
  if n < 10 then [UInt8.ofNat (48 + n)] else digits (n / 10) ++ [UInt8.ofNat (48 + n % 10)]

private theorem digit_toNat {n : Nat} (h : n < 10) : (UInt8.ofNat (48 + n)).toNat = 48 + n := by
  rw [UInt8.toNat_ofNat']
  omega

theorem ofDigits_digits (n : Nat) : ofDigits (digits n) = n := by
  induction n using Nat.strongRecOn with
  | ind n ih =>
    rw [digits]
    split
    · next h =>
      simp only [ofDigits, List.foldl_cons, List.foldl_nil, digitValue, digit_toNat h]
      omega
    · next h =>
      have ih := ih (n / 10) (by omega)
      have hd := digit_toNat (Nat.mod_lt n (show 10 > 0 by omega))
      unfold ofDigits at ih ⊢
      rw [List.foldl_append, ih, List.foldl_cons, List.foldl_nil, digitValue, hd]
      omega

theorem isDigit_of_mem_digits {n : Nat} {d : UInt8} (h : d ∈ digits n) : isDigit d = true := by
  induction n using Nat.strongRecOn with
  | ind n ih =>
    rw [digits] at h
    split at h
    · next hn =>
      rw [List.mem_singleton] at h
      have := digit_toNat hn
      rw [← h] at this
      simp [isDigit, this]
      omega
    · next hn =>
      rcases List.mem_append.1 h with h | h
      · exact ih (n / 10) (by omega) h
      · rw [List.mem_singleton] at h
        have hd := digit_toNat (Nat.mod_lt n (show 10 > 0 by omega))
        rw [← h] at hd
        simp [isDigit, hd]
        omega

end WebAuthn.Decimal
