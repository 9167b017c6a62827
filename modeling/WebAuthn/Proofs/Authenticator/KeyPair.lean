import WebAuthn.Authenticator.KeyPair
import WebAuthn.Proofs.Layout.WrittenKey

/-!
# Key pairs have well-formed public keys

* `KeyPair.Usable` — the public key is one that signatures can be verified with;
* `KeyPair.toNat_shortest`, `headD_shortest` — the fewest bytes of a number spell it and do not begin with zero;
* `KeyPair.Usable.wellFormed` — the public key of a usable key pair is well-formed.
-/

namespace WebAuthn.KeyPair

open Audited

/-- The public key can be used, and an RSA modulus has at least 256 bytes. -/
def Usable (keyPair : KeyPair) : Prop :=
  keyPair.publicKey.usable.outcome = .ok () ∧
    ∀ key, keyPair = .rs256 key ∨ keyPair = .ps256 key →
      Cose.minimumModulusLength ≤ key.publicKey.size

/-! ### The fewest bytes of a number -/

variable {n : Nat}

theorem length_shortest (n : Nat) : (shortest n).length = (Rsa.bitLength n + 7) / 8 :=
  Bytes.ofNat_length _ n

theorem toNat_shortest (n : Nat) : Bytes.toNat (shortest n) = n := by
  have hbits : n < Nat.pow 2 (Rsa.bitLength n) := Rsa.bitLength_le.1 (Nat.le_refl _)
  have hle : Rsa.bitLength n ≤ 8 * ((Rsa.bitLength n + 7) / 8) := by omega
  have hpow : Nat.pow 2 (Rsa.bitLength n) ≤ Nat.pow 2 (8 * ((Rsa.bitLength n + 7) / 8)) :=
    Nat.pow_le_pow_right (by decide) hle
  refine Bytes.toNat_ofNat_of_lt ?_
  rw [Bytes.pow_eq]
  exact Nat.lt_of_lt_of_le hbits hpow

/-- The first byte is not zero, as the number would fit into one byte less. -/
theorem headD_shortest (h : n ≠ 0) : (shortest n).headD 0 ≠ 0 := by
  have hspells := toNat_shortest n
  have hlength := length_shortest n
  have hpos : 0 < Rsa.bitLength n := by
    rw [Rsa.bitLength, if_neg h]
    exact Nat.succ_pos _
  cases hs : shortest n with
  | nil =>
    rw [hs, List.length_nil] at hlength
    omega
  | cons b rest =>
    intro hb
    have hzero : b = 0 := hb
    rw [hs] at hspells hlength
    rw [hzero, Bytes.toNat_cons] at hspells
    have hrest : n < Nat.pow 2 (8 * rest.length) := by
      have hlt := Bytes.toNat_lt rest
      rw [Bytes.pow_eq] at hlt
      have hn : n = Bytes.toNat rest := hspells.symm.trans (Nat.zero_add _)
      exact hn ▸ hlt
    have hle : Rsa.bitLength n ≤ 8 * rest.length := Rsa.bitLength_le.2 hrest
    rw [List.length_cons] at hlength
    omega

/-! ### Well-formed public keys -/

theorem wellFormed_rsaPublicKey {algorithm : Cose.Algorithm} {key : Rsa.PrivateKey}
    (htype : algorithm.keyType = .rsa) (husable : (rsaPublicKey algorithm key).usable.outcome = .ok ())
    (hsize : Cose.minimumModulusLength ≤ key.publicKey.size) :
    (rsaPublicKey algorithm key).WellFormed := by
  obtain ⟨publicKey, hpublic, _⟩ := outcome_bind_ok.1 husable
  obtain ⟨rfl, haccepted⟩ := Rsa.PublicKey.ofBytes?_eq_some.1 ((Cose.outcome_orRejectedKey _ _).1 hpublic)
  obtain ⟨_, hlt, _, _, htwo, hmax⟩ := (Rsa.PublicKey.isAccepted_iff _).1 haccepted
  simp only [toNat_shortest] at hlt htwo hmax
  have hmodulus := length_shortest key.publicKey.modulus
  have hexponent := length_shortest key.publicKey.exponent
  have hbits : Rsa.bitLength key.publicKey.exponent ≤ 33 :=
    Rsa.bitLength_le.2 (Nat.lt_of_le_of_lt hmax (show Rsa.maxExponent < Nat.pow 2 33 by decide))
  have hpos : ¬ Rsa.bitLength key.publicKey.exponent ≤ 0 := fun h =>
    absurd (Rsa.bitLength_le.1 h) (Nat.not_lt.2 (Nat.le_trans (by decide) htwo))
  refine ⟨htype, ⟨hmodulus ▸ hsize, headD_shortest (by omega)⟩, ⟨?_, ?_⟩, _, hpublic⟩
  · show 1 ≤ (shortest key.publicKey.exponent).length
    omega
  · have hmaximum : Cose.maximumExponentLength = 8 := rfl
    show (shortest key.publicKey.exponent).length ≤ _
    omega

theorem Usable.wellFormed {keyPair : KeyPair} (h : keyPair.Usable) : keyPair.publicKey.WellFormed := by
  obtain ⟨husable, hsize⟩ := h
  cases keyPair with
  | es256 secret =>
    obtain ⟨point, hpoint, _⟩ := outcome_bind_ok.1 husable
    exact ⟨rfl, rfl, point, hpoint⟩
  | edDsa secret =>
    obtain ⟨point, hpoint, _⟩ := outcome_bind_ok.1 husable
    exact ⟨rfl, rfl, point, hpoint⟩
  | rs256 key => exact wellFormed_rsaPublicKey rfl husable (hsize key (.inl rfl))
  | ps256 key => exact wellFormed_rsaPublicKey rfl husable (hsize key (.inr rfl))

theorem algorithm_publicKey (keyPair : KeyPair) : keyPair.publicKey.algorithm = keyPair.algorithm := by
  cases keyPair <;> rfl

end WebAuthn.KeyPair
