import WebAuthn.Bytes
import WebAuthn.Number.Modular

/-!
# The curve P-256

`y² = x³ - 3x + b` over a prime field, with a base point of prime order.

* `P256.Point` — homogeneous coordinates, so that the neutral point is a point like any other;
* `P256.Point.add` — one addition formula for every pair of points of the curve, doublings and the neutral
  point included;
* `P256.Point.ofAffine?` — the point with given coordinates, if they are reduced and on the curve.

That the formula is the group law is not proved here.
-/

namespace WebAuthn.P256

def prime : Nat := 0xffffffff00000001000000000000000000000000ffffffffffffffffffffffff

/-- The number of points of the curve, a prime. -/
def order : Nat := 0xffffffff00000000ffffffffffffffffbce6faada7179e84f3b9cac2fc632551

/-- The constant term of the curve equation. -/
def coefficient : Nat := 0x5ac635d8aa3a93e7b3ebbd55769886bc651d06b0cc53b0f63bce3c3e27d2604b

/-- A point `(x/z, y/z)`; the neutral point has `z = 0`. -/
structure Point where
  x : Nat
  y : Nat
  z : Nat
  deriving DecidableEq, Repr

namespace Point

def zero : Point := ⟨0, 1, 0⟩

def base : Point where
  x := 0x6b17d1f2e12c4247f8bce6e563a440f277037d812deb33a0f4a13945d898c296
  y := 0x4fe342e2fe1a7f9b8ee7eb4a7c0f9e162bce33576b315ececbb6406837bf51f5
  z := 1

/-- Whether affine coordinates satisfy the curve equation. -/
def onCurve (x y : Nat) : Bool :=
  y * y % prime == (x * x % prime * x + (prime - 3) * x + coefficient) % prime

/-- The point with these affine coordinates. -/
def ofAffine? (x y : Nat) : Option Point :=
  if x < prime ∧ y < prime ∧ onCurve x y then some ⟨x, y, 1⟩ else none

/-- The sum of two points, by the complete addition formula for curves with linear coefficient `-3`. -/
def add (p q : Point) : Point :=
  let mul := fun a b => a * b % prime
  let sub := Modular.sub prime
  let xx := mul p.x q.x
  let yy := mul p.y q.y
  let zz := mul p.z q.z
  let xy := sub (mul (p.x + p.y) (q.x + q.y)) ((xx + yy) % prime)
  let yz := sub (mul (p.y + p.z) (q.y + q.z)) ((yy + zz) % prime)
  let xz := sub (mul (p.x + p.z) (q.x + q.z)) ((xx + zz) % prime)
  let u := mul 3 (sub xz (mul coefficient zz))
  let zz3 := mul 3 zz
  let v := mul 3 (sub (sub (mul coefficient xz) zz3) xx)
  let w := sub (mul 3 xx) zz3
  let minus := sub yy u
  let plus := (yy + u) % prime
  { x := sub (mul xy plus) (mul yz v)
    y := (mul plus minus + mul w v) % prime
    z := (mul yz minus + mul xy w) % prime }

def scale (n : Nat) (p : Point) : Point :=
  Modular.multiple add zero p n

/-- The affine first coordinate; the neutral point has none. -/
def affineX? (p : Point) : Option Nat :=
  if p.z = 0 then none else some (p.x * Modular.inverse prime p.z % prime)

/-- The affine second coordinate; the neutral point has none. -/
def affineY? (p : Point) : Option Nat :=
  if p.z = 0 then none else some (p.y * Modular.inverse prime p.z % prime)

end Point

end WebAuthn.P256
