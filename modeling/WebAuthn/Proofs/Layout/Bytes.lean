import WebAuthn.Bytes

/-!
# Numbers in byte strings

Byte strings of one length and the numbers below a power of 256 are the same thing.

* `Bytes.toNatLittle_lt`, `ofNatLittle_toNatLittle` — least significant byte first, by induction on the bytes;
* `Bytes.toNat_lt`, `ofNat_toNat`, `toNat_ofNat` — most significant byte first, where the order is reversed;
* `Bytes.pow_le_toNat` — a first byte other than zero says how large the number is.
-/

namespace WebAuthn.Bytes

/-! ### Least significant byte first -/

theorem toNatLittle_lt (bytes : Bytes) : toNatLittle bytes < Nat.pow 256 bytes.length := by
  induction bytes with
  | nil => decide
  | cons b rest ih =>
    have hb : b.toNat < 256 := b.toNat_lt
    have hpow : Nat.pow 256 (b :: rest).length = Nat.pow 256 rest.length * 256 := rfl
    rw [toNatLittle, hpow]
    omega

theorem ofNatLittle_toNatLittle (bytes : Bytes) :
    ofNatLittle bytes.length (toNatLittle bytes) = bytes := by
  induction bytes with
  | nil => rfl
  | cons b rest ih =>
    have hb : b.toNat < 256 := b.toNat_lt
    have hdiv : (b.toNat + 256 * toNatLittle rest) / 256 = toNatLittle rest := by omega
    have hhead : UInt8.ofNat (b.toNat + 256 * toNatLittle rest) = b := by
      apply UInt8.toNat_inj.1
      rw [UInt8.toNat_ofNat']
      omega
    rw [List.length_cons, toNatLittle, ofNatLittle, hdiv, ih, hhead]

/-! ### Most significant byte first -/

theorem toNat_eq_toNatLittle (bytes : Bytes) : toNat bytes = toNatLittle bytes.reverse := by
  have h : ∀ list : Bytes, list.foldr (fun b n => 256 * n + b.toNat) 0 = toNatLittle list := by
    intro list
    induction list with
    | nil => rfl
    | cons b rest ih =>
      rw [List.foldr_cons, ih, toNatLittle]
      omega
  rw [toNat, List.foldl_eq_foldr_reverse, h]

theorem toNat_lt (bytes : Bytes) : toNat bytes < Nat.pow 256 bytes.length := by
  rw [toNat_eq_toNatLittle, ← List.length_reverse]
  exact toNatLittle_lt bytes.reverse

/-- Reading a number and writing it in the same width gives the bytes back. -/
theorem ofNat_toNat (bytes : Bytes) : ofNat bytes.length (toNat bytes) = bytes := by
  rw [ofNat, toNat_eq_toNatLittle, ← List.length_reverse, ofNatLittle_toNatLittle,
    List.reverse_reverse]

/-- Writing a number in some width and reading it gives its remainder back. -/
theorem toNat_ofNat (width n : Nat) : toNat (ofNat width n) = n % Nat.pow 256 width := by
  rw [toNat_eq_toNatLittle, ofNat, List.reverse_reverse, toNatLittle_ofNatLittle]

theorem toNat_ofNat_of_lt {width n : Nat} (h : n < Nat.pow 256 width) :
    toNat (ofNat width n) = n := by
  rw [toNat_ofNat, Nat.mod_eq_of_lt h]

theorem pow_eq (width : Nat) : Nat.pow 256 width = Nat.pow 2 (8 * width) :=
  (Nat.pow_mul 2 8 width).symm

theorem lt_of_two_pow_lt {a b : Nat} (h : Nat.pow 2 a < Nat.pow 2 b) : a < b :=
  (Nat.pow_lt_pow_iff_right (by decide)).1 h

theorem toNatLittle_append (front back : Bytes) :
    toNatLittle (front ++ back) = toNatLittle front + Nat.pow 256 front.length * toNatLittle back := by
  induction front with
  | nil => simp [toNatLittle]
  | cons b rest ih =>
    have hpow : Nat.pow 256 (b :: rest).length = 256 * Nat.pow 256 rest.length := Nat.mul_comm ..
    rw [List.cons_append, toNatLittle, toNatLittle, ih, hpow, Nat.mul_assoc]
    omega

theorem toNat_cons (b : UInt8) (rest : Bytes) :
    toNat (b :: rest) = Nat.pow 256 rest.length * b.toNat + toNat rest := by
  rw [toNat_eq_toNatLittle, toNat_eq_toNatLittle, List.reverse_cons, toNatLittle_append,
    List.length_reverse, Nat.add_comm, toNatLittle, toNatLittle, Nat.mul_zero, Nat.add_zero]

/-- A first byte other than zero counts. -/
theorem pow_le_toNat {bytes : Bytes} (h : bytes.headD 0 ≠ 0) :
    Nat.pow 256 (bytes.length - 1) ≤ toNat bytes := by
  cases bytes with
  | nil => exact absurd rfl h
  | cons b rest =>
    have hb : b.toNat ≠ 0 := fun hb => h (UInt8.toNat_inj.1 hb)
    have hle : Nat.pow 256 rest.length ≤ Nat.pow 256 rest.length * b.toNat :=
      Nat.le_mul_of_pos_right _ (Nat.pos_of_ne_zero hb)
    rw [toNat_cons]
    exact Nat.le_trans hle (Nat.le_add_right _ _)

end WebAuthn.Bytes
