import WebAuthn.Signature.Rsa

/-!
# The accepted sizes of RSA keys

* `Rsa.bitLength_le` — the numbers of so many bits;
* `Rsa.PublicKey.isAccepted_iff`, `ofBytes?_eq_some` — which modulus and exponent are a key.
-/

namespace WebAuthn.Rsa

theorem bitLength_le {n k : Nat} : bitLength n ≤ k ↔ n < Nat.pow 2 k := by
  unfold bitLength
  by_cases h : n = 0
  · rw [if_pos h, h]
    exact ⟨fun _ => Nat.two_pow_pos k, fun _ => Nat.zero_le k⟩
  · rw [if_neg h]
    exact Nat.log2_lt h

namespace PublicKey

theorem isAccepted_iff (key : PublicKey) :
    key.isAccepted = true ↔
      bitLength key.modulus ≤ maxModulusBits ∧ key.exponent < key.modulus ∧
        key.modulus % 2 = 1 ∧ key.exponent % 2 = 1 ∧ 2 ≤ key.exponent ∧
        key.exponent ≤ maxExponent := by
  simp only [isAccepted, Bool.and_eq_true, decide_eq_true_eq, beq_iff_eq, and_assoc]

theorem ofBytes?_eq_some {modulus exponent : Bytes} {key : PublicKey} :
    ofBytes? modulus exponent = some key ↔
      key = ⟨Bytes.toNat modulus, Bytes.toNat exponent⟩ ∧ key.isAccepted = true := by
  unfold ofBytes?
  by_cases h : (mk (Bytes.toNat modulus) (Bytes.toNat exponent)).isAccepted = true
  · rw [if_pos h, Option.some.injEq, eq_comm]
    exact ⟨fun he => ⟨he, he ▸ h⟩, And.left⟩
  · rw [if_neg h]
    exact ⟨nofun, fun ⟨he, ha⟩ => absurd (he ▸ ha) h⟩

end PublicKey

end WebAuthn.Rsa
