import WebAuthn.Bytes
import WebAuthn.Number.Modular

/-!
# The curve of Ed25519

`-x² + y² = 1 + d·x²·y²` over the field of `2^255 - 19` elements.

* `Edwards25519.Point` — extended coordinates, with one addition formula for every pair of points;
* `Edwards25519.Point.decompress?` — the point of a 32-byte encoding: the second coordinate, not necessarily
  reduced, with the parity of the first in the top bit;
* `Edwards25519.Point.compress` — the one reduced encoding of a point.

That the formula is the group law is not proved here.
-/

namespace WebAuthn.Edwards25519

def prime : Nat := Nat.pow 2 255 - 19

/-- The prime order of the base point. -/
def order : Nat := Nat.pow 2 252 + 27742317777372353535851937790883648493

/-- The constant `d` of the curve equation. -/
def coefficient : Nat := 37095705934669439343138083508754565189542113879843219016388785533085940283555

def rootOfMinusOne : Nat := 19681161376707505956807079304988542015446066515923890162744021073123829784752

/-- A point `(x/z, y/z)` with `t = x·y/z`. -/
structure Point where
  x : Nat
  y : Nat
  z : Nat
  t : Nat
  deriving DecidableEq, Repr

/-- The square root of `u/v` that is even, if there is one. -/
def rootOfRatio? (u v : Nat) : Option Nat :=
  let mul := fun a b => a * b % prime
  let v3 := mul (mul v v) v
  let v7 := mul (mul v3 v3) v
  let root := mul (mul u v3) (Modular.pow prime (mul u v7) ((prime - 5) / 8))
  let check := mul v (mul root root)
  let even := fun r => if r % 2 = 0 then r else prime - r
  if check = u then some (even root)
  else if check = Modular.sub prime 0 u then some (even (mul root rootOfMinusOne))
  else none

namespace Point

def zero : Point := ⟨0, 1, 1, 0⟩

def base : Point :=
  let x := 15112221349535400772501151409588531511454012693041857206046113283949847762202
  let y := 46316835694926478169428394003475163141307993866256225615783033603165251855960
  ⟨x, y, 1, x * y % prime⟩

def add (p q : Point) : Point :=
  let mul := fun a b => a * b % prime
  let sub := Modular.sub prime
  let a := mul (sub p.y p.x) (sub q.y q.x)
  let b := mul (p.y + p.x) (q.y + q.x)
  let c := mul (mul (2 * coefficient) p.t) q.t
  let d := mul (2 * p.z) q.z
  let e := sub b a
  let f := sub d c
  let g := (d + c) % prime
  let h := (b + a) % prime
  ⟨mul e f, mul g h, mul f g, mul e h⟩

/-- The mirror image of a point, its inverse under addition. -/
def neg (p : Point) : Point :=
  ⟨Modular.sub prime 0 p.x, p.y, p.z, Modular.sub prime 0 p.t⟩

def scale (n : Nat) (p : Point) : Point :=
  Modular.multiple add zero p n

def isZero (p : Point) : Bool :=
  p.x == 0 && p.y == p.z

/-- Whether eight times the point is the neutral point. -/
def hasSmallOrder (p : Point) : Bool :=
  (scale 8 p).isZero

def decompress? (bytes : Bytes) : Option Point :=
  let n := Bytes.toNatLittle bytes
  let y := n % Nat.pow 2 255 % prime
  let yy := y * y % prime
  match rootOfRatio? (Modular.sub prime yy 1) ((coefficient * yy + 1) % prime) with
  | none => none
  | some root =>
    let x := if n / Nat.pow 2 255 % 2 = 1 then Modular.sub prime 0 root else root
    some ⟨x, y, 1, x * y % prime⟩

def compress (p : Point) : Bytes :=
  let zi := Modular.inverse prime p.z
  let x := p.x * zi % prime
  let y := p.y * zi % prime
  Bytes.ofNatLittle 32 (y + x % 2 * Nat.pow 2 255)

theorem compress_length (p : Point) : p.compress.length = 32 :=
  Bytes.ofNatLittle_length _ _

end Point

end WebAuthn.Edwards25519
