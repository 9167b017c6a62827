import WebAuthn.Bytes

/-!
# Hexadecimal

* `Hex.encode`, `Hex.decode?` — two digits for each byte, written in lower case and read in either;
* `Hex.decode?_encode` — what is written is read back.
-/

namespace WebAuthn.Hex

/-- The lower-case digit of a value below sixteen. -/
def digit (value : Nat) : Char :=
  if value < 10 then Char.ofNat (48 + value) else Char.ofNat (87 + value)

def value? (c : Char) : Option Nat :=
  let n := c.toNat
  if 48 ≤ n ∧ n ≤ 57 then some (n - 48)
  else if 97 ≤ n ∧ n ≤ 102 then some (n - 87)
  else if 65 ≤ n ∧ n ≤ 70 then some (n - 55)
  else none

def encode (bytes : Bytes) : List Char :=
  bytes.flatMap fun b => [digit (b.toNat / 16), digit (b.toNat % 16)]

/-- The byte string of pairs of digits. -/
def decode? : List Char → Option Bytes
  | [] => some []
  | [_] => none
  | high :: low :: rest => do
    let high ← value? high
    let low ← value? low
    let rest ← decode? rest
    return UInt8.ofNat (16 * high + low) :: rest

theorem value?_digit {value : Nat} (h : value < 16) : value? (digit value) = some value := by
  revert value
  decide

theorem decode?_encode (bytes : Bytes) : decode? (encode bytes) = some bytes := by
  induction bytes with
  | nil => rfl
  | cons b rest ih =>
    have hb := b.toNat_lt
    have high := value?_digit (show b.toNat / 16 < 16 by omega)
    have low := value?_digit (show b.toNat % 16 < 16 by omega)
    have hn : UInt8.ofNat (16 * (b.toNat / 16) + b.toNat % 16) = b := by
      rw [Nat.div_add_mod, UInt8.ofNat_toNat]
    rw [encode] at ih ⊢
    rw [List.flatMap_cons, List.cons_append, List.cons_append, List.nil_append, decode?, high, low, ih]
    simp only [Option.pure_def, Option.bind_eq_bind, Option.bind_some, hn]

end WebAuthn.Hex
