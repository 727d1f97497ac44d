import Wallet.Bytes
import Wallet.Curve.Modular

/-!
# Short Weierstrass curves

The curves `y² = x³ + a·x + b` of the two ECDSA schemes. Points are kept as `(x, y, z)` standing
for `(x / z², y / z³)`, so that a multiplication by a scalar needs a single inversion at its end;
`z = 0` is the point at infinity.
-/

namespace Wallet.Curve

open Wallet.Modular

/-- A curve over a prime field with a base point of prime order. -/
structure Weierstrass where
  prime : Nat
  order : Nat
  a : Nat
  b : Nat
  baseX : Nat
  baseY : Nat
  /-- Whether a signature must have its second half in the lower half of the scalars. -/
  lowS : Bool
  prime_pos : 0 < prime
  order_pos : 0 < order

namespace Weierstrass

/-- The curve secp256k1. -/
def secp256k1 : Weierstrass where
  prime := 0xfffffffffffffffffffffffffffffffffffffffffffffffffffffffefffffc2f
  order := 0xfffffffffffffffffffffffffffffffebaaedce6af48a03bbfd25e8cd0364141
  a := 0
  b := 7
  baseX := 0x79be667ef9dcbbac55a06295ce870b07029bfcdb2dce28d959f2815b16f81798
  baseY := 0x483ada7726a3c4655da4fbfc0e1108a8fd17b448a68554199c47d08ffb10d4b8
  lowS := true
  prime_pos := by decide
  order_pos := by decide

/-- The curve secp256r1. -/
def secp256r1 : Weierstrass where
  prime := 0xffffffff00000001000000000000000000000000ffffffffffffffffffffffff
  order := 0xffffffff00000000ffffffffffffffffbce6faada7179e84f3b9cac2fc632551
  a := 0xffffffff00000001000000000000000000000000fffffffffffffffffffffffc
  b := 0x5ac635d8aa3a93e7b3ebbd55769886bc651d06b0cc53b0f63bce3c3e27d2604b
  baseX := 0x6b17d1f2e12c4247f8bce6e563a440f277037d812deb33a0f4a13945d898c296
  baseY := 0x4fe342e2fe1a7f9b8ee7eb4a7c0f9e162bce33576b315ececbb6406837bf51f5
  lowS := false
  prime_pos := by decide
  order_pos := by decide

instance (c : Weierstrass) : Modulus c.prime := ⟨c.prime_pos⟩

instance (c : Weierstrass) : Modulus c.order := ⟨c.order_pos⟩

/-- Coordinates. -/
abbrev Coordinate (c : Weierstrass) := Fin c.prime

/-- Scalars. -/
abbrev Scalar (c : Weierstrass) := Fin c.order

/-- A point, or infinity when `z` is zero. -/
structure Point (c : Weierstrass) where
  (x y z : c.Coordinate)

variable {c : Weierstrass}

/-- The point at infinity. -/
def infinity : c.Point :=
  ⟨residue _ 1, residue _ 1, residue _ 0⟩

/-- The base point. -/
def base (c : Weierstrass) : c.Point :=
  ⟨residue _ c.baseX, residue _ c.baseY, residue _ 1⟩

/-- Whether coordinates satisfy the equation of the curve. -/
def contains (c : Weierstrass) (x y : c.Coordinate) : Bool :=
  y * y == x * x * x + residue _ c.a * x + residue _ c.b

namespace Point

/-- A point added to itself. -/
def double (p : c.Point) : c.Point :=
  let yy := p.y * p.y
  let s := residue _ 4 * p.x * yy
  let zz := p.z * p.z
  let m := residue _ 3 * p.x * p.x + residue _ c.a * (zz * zz)
  let x := m * m - (s + s)
  ⟨x, m * (s - x) - residue _ 8 * (yy * yy), residue _ 2 * p.y * p.z⟩

/-- The sum of two points. -/
def add (p q : c.Point) : c.Point :=
  if p.z = residue _ 0 then q
  else if q.z = residue _ 0 then p
  else
    let pz := p.z * p.z
    let qz := q.z * q.z
    let u := p.x * qz
    let s := p.y * qz * q.z
    let h := q.x * pz - u
    let r := q.y * pz * p.z - s
    -- With equal `x` the points are equal or opposite, and the formula below would give infinity
    -- for both.
    if h = residue _ 0 then
      if r = residue _ 0 then double p else infinity
    else
      let hh := h * h
      let hhh := h * hh
      let v := u * hh
      let x := r * r - hhh - (v + v)
      ⟨x, r * (v - x) - s * hhh, h * p.z * q.z⟩

/-- A point added to itself `k` times, along the binary digits of `k`. -/
def mul (k : Nat) (p : c.Point) : c.Point :=
  (Radix.digits 2 k).foldl
    (fun q digit => if digit = 1 then add (double q) p else double q) infinity

/-- The plain coordinates of a point, none at infinity. -/
def toAffine (p : c.Point) : Option (c.Coordinate × c.Coordinate) :=
  if p.z = residue _ 0 then none
  else
    let i := inverse p.z
    let ii := i * i
    some (p.x * ii, p.y * (ii * i))

end Point

/-! ## Public points as bytes -/

/-- Both coordinates as 32 bytes each, most significant byte first; zeros at infinity. -/
def encode (p : c.Point) : Octets 64 :=
  match p.toAffine with
  | some (x, y) => (Octets.ofNat 32 x).append (Octets.ofNat 32 y)
  | none => Octets.ofNat 64 0

/-- Read both coordinates, which must be reduced and lie on the curve. -/
def decode (c : Weierstrass) (bytes : Bytes) : Option c.Point :=
  let x := Bytes.toNat (bytes.take 32)
  let y := Bytes.toNat (bytes.drop 32)
  if bytes.length = 64 ∧ x < c.prime ∧ y < c.prime ∧
      c.contains (residue _ x) (residue _ y) then
    some ⟨residue _ x, residue _ y, residue _ 1⟩
  else none

end Weierstrass

end Wallet.Curve
