/-!
# Byte strings

Every binary format of the library is read from and written to a plain list of bytes.

* `Bytes.toNat`, `Bytes.ofNat` — big-endian numbers;
* `Bytes.toNatLittle`, `Bytes.ofNatLittle` — little-endian numbers;
* `Bytes.same` — the comparison whose work depends on the lengths only; `Bytes.same_iff` says that it is
  equality;
* `FixedBytes n` — byte strings of one length, and `FixedBytes.split?`, which cuts one off the front where
  enough bytes stand; `FixedBytes.split?_eq_some` says what it cuts.
-/

namespace WebAuthn

abbrev Bytes := List UInt8

namespace Bytes

/-! ### Numbers -/

/-- The number that the bytes spell, least significant byte first. -/
def toNatLittle : Bytes → Nat
  | [] => 0
  | b :: rest => b.toNat + 256 * toNatLittle rest

/-- The lowest `width` bytes of `n`, least significant byte first. -/
def ofNatLittle : (width n : Nat) → Bytes
  | 0, _ => []
  | width + 1, n => UInt8.ofNat n :: ofNatLittle width (n / 256)

/-- The number that the bytes spell, most significant byte first. -/
def toNat (bytes : Bytes) : Nat :=
  bytes.foldl (fun n b => 256 * n + b.toNat) 0

/-- The lowest `width` bytes of `n`, most significant byte first. -/
def ofNat (width n : Nat) : Bytes :=
  (ofNatLittle width n).reverse

theorem ofNatLittle_length (width n : Nat) : (ofNatLittle width n).length = width := by
  induction width generalizing n with
  | zero => rfl
  | succ width ih => simp [ofNatLittle, ih]

theorem ofNat_length (width n : Nat) : (ofNat width n).length = width := by
  simp [ofNat, ofNatLittle_length]

theorem toNatLittle_ofNatLittle (width n : Nat) :
    toNatLittle (ofNatLittle width n) = n % Nat.pow 256 width := by
  induction width generalizing n with
  | zero => simp [ofNatLittle, toNatLittle, Nat.mod_one]
  | succ width ih =>
    have hw : Nat.pow 256 (width + 1) = 256 * Nat.pow 256 width := Nat.mul_comm ..
    rw [ofNatLittle, toNatLittle, ih, UInt8.toNat_ofNat', hw, Nat.mod_mul]

/-! ### Comparison -/

/-- Whether two byte strings are equal. The lengths are compared openly; the contents are folded into
one accumulated difference, so that no byte ends the comparison early. -/
def same (left right : Bytes) : Bool :=
  left.length == right.length &&
    (left.zipWith (· ^^^ ·) right).foldl (· ||| ·) 0 == 0

private theorem foldl_or_eq_zero (bytes : Bytes) (start : UInt8) :
    bytes.foldl (· ||| ·) start = 0 ↔ start = 0 ∧ ∀ b ∈ bytes, b = 0 := by
  induction bytes generalizing start with
  | nil => simp
  | cons b rest ih =>
    simp only [List.foldl_cons, ih, List.mem_cons, forall_eq_or_imp, UInt8.or_eq_zero_iff]
    exact ⟨fun ⟨⟨h, hb⟩, hr⟩ => ⟨h, hb, hr⟩, fun ⟨h, hb, hr⟩ => ⟨⟨h, hb⟩, hr⟩⟩

private theorem zipWith_xor_all_zero (left right : Bytes) (h : left.length = right.length) :
    (∀ b ∈ left.zipWith (· ^^^ ·) right, b = 0) ↔ left = right := by
  induction left generalizing right with
  | nil => cases right with
    | nil => simp
    | cons r right => simp at h
  | cons l left ih => cases right with
    | nil => simp at h
    | cons r right =>
      simp only [List.zipWith_cons_cons, List.mem_cons, forall_eq_or_imp, List.cons.injEq,
        UInt8.xor_eq_zero_iff]
      rw [ih right (by simpa using h)]

/-- The accumulated comparison is equality. -/
theorem same_iff (left right : Bytes) : same left right = true ↔ left = right := by
  unfold same
  by_cases h : left.length = right.length
  · rw [← zipWith_xor_all_zero left right h]
    simp [h, foldl_or_eq_zero]
  · simp only [h, beq_iff_eq, Bool.and_eq_true, false_and, false_iff]
    exact fun e => h (e ▸ rfl)

end Bytes

/-! ### Byte strings of one length -/

/-- A byte string of `n` bytes. -/
structure FixedBytes (n : Nat) where
  bytes : Bytes
  length_eq : bytes.length = n
  deriving DecidableEq

namespace FixedBytes

variable {n : Nat}

theorem ext {a b : FixedBytes n} (h : a.bytes = b.bytes) : a = b := by
  cases a
  cases b
  simp_all

def ofBytes? (bytes : Bytes) : Option (FixedBytes n) :=
  if h : bytes.length = n then some ⟨bytes, h⟩ else none

theorem ofBytes?_eq_some {bytes : Bytes} {fixed : FixedBytes n} :
    ofBytes? bytes = some fixed ↔ fixed.bytes = bytes := by
  obtain ⟨content, rfl⟩ := fixed
  unfold ofBytes?
  split
  · simp [eq_comm]
  · next h =>
    simp only [reduceCtorEq, false_iff]
    rintro rfl
    exact h rfl

def zeros : FixedBytes n :=
  ⟨List.replicate n 0, List.length_replicate⟩

/-- The first `n` bytes and the rest, if there are `n` bytes. -/
def split? (n : Nat) (bytes : Bytes) : Option (FixedBytes n × Bytes) :=
  if h : n ≤ bytes.length then
    some (⟨bytes.take n, by rw [List.length_take]; omega⟩, bytes.drop n)
  else none

theorem split?_eq_some {bytes rest : Bytes} {front : FixedBytes n} :
    split? n bytes = some (front, rest) ↔ bytes = front.bytes ++ rest := by
  obtain ⟨front, hf⟩ := front
  unfold split?
  split
  · simp only [Option.some.injEq, Prod.mk.injEq, FixedBytes.mk.injEq]
    constructor
    · rintro ⟨rfl, rfl⟩
      exact (List.take_append_drop n bytes).symm
    · rintro rfl
      simp [← hf]
  · next h =>
    simp only [reduceCtorEq, false_iff]
    rintro rfl
    simp [hf] at h

theorem split?_eq_none {bytes : Bytes} : split? n bytes = none ↔ bytes.length < n := by
  simp [split?]

end FixedBytes

end WebAuthn
