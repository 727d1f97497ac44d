import Wallet.Bytes
import Wallet.Curve.Modular

/-!
# The twisted Edwards curve of Ed25519

The curve `y² - x² = 1 + d·x²·y²` modulo `2 ^ 255 - 19`. A point is kept as `(x, y, z, t)`
standing for `(x / z, y / z)` with `t = x·y / z`.

On the wire a point is its `y` coordinate, least significant byte first, with the parity of `x`
in the top bit. Reading is lenient in two ways: `y` is taken modulo the prime, and a set parity
bit next to `x = 0` is ignored.
-/

namespace Wallet.Curve.Edwards

open Wallet.Modular

/-- The field prime. -/
def prime : Nat := Nat.pow 2 255 - 19

/-- The order of the base point. -/
def order : Nat := Nat.pow 2 252 + 27742317777372353535851937790883648493

instance : Modulus prime := ⟨by decide⟩

instance : Modulus order := ⟨by decide⟩

abbrev Coordinate := Fin prime

/-- The constant of the curve, `-121665 / 121666`. -/
def d : Coordinate :=
  residue _ 37095705934669439343138083508754565189542113879843219016388785533085940283555

/-- A square root of `-1`. -/
def rootOfMinusOne : Coordinate :=
  residue _ 19681161376707505956807079304988542015446066515923890162744021073123829784752

/-- A point. -/
structure Point where
  (x y z t : Coordinate)

/-- The neutral point. -/
def neutral : Point :=
  ⟨residue _ 0, residue _ 1, residue _ 1, residue _ 0⟩

/-- A point from plain coordinates. -/
def ofAffine (x y : Coordinate) : Point :=
  ⟨x, y, residue _ 1, x * y⟩

/-- The base point. -/
def base : Point :=
  ofAffine
    (residue _ 15112221349535400772501151409588531511454012693041857206046113283949847762202)
    (residue _ 46316835694926478169428394003475163141307993866256225615783033603165251855960)

namespace Point

/-- The sum of two points. -/
def add (p q : Point) : Point :=
  let a := (p.y - p.x) * (q.y - q.x)
  let b := (p.y + p.x) * (q.y + q.x)
  let c := residue _ 2 * d * p.t * q.t
  let e := residue _ 2 * p.z * q.z
  ⟨(b - a) * (e - c), (e + c) * (b + a), (e - c) * (e + c), (b - a) * (b + a)⟩

/-- A point added to itself. -/
def double (p : Point) : Point :=
  let a := p.x * p.x
  let b := p.y * p.y
  let c := residue _ 2 * p.z * p.z
  let h := a + b
  let e := h - (p.x + p.y) * (p.x + p.y)
  let g := a - b
  let f := c + g
  ⟨e * f, g * h, f * g, e * h⟩

/-- The opposite point. -/
def neg (p : Point) : Point :=
  ⟨residue _ 0 - p.x, p.y, p.z, residue _ 0 - p.t⟩

/-- A point added to itself `k` times, along the binary digits of `k`. -/
def mul (k : Nat) (p : Point) : Point :=
  (Radix.digits 2 k).foldl
    (fun q digit => if digit = 1 then add (double q) p else double q) neutral

end Point

/-! ## Points as bytes -/

/-- The wire form of a point. -/
def encode (p : Point) : Octets 32 :=
  let i := inverse p.z
  let x := p.x * i
  let y := p.y * i
  ⟨littleEndian 32 (x.val % 2 * Nat.pow 2 255 + y.val), length_littleEndian _ _⟩

/-- An even `x` with `v·x² = u`, if there is one. -/
def ratioRoot (u v : Coordinate) : Option Coordinate :=
  let vvv := v * v * v
  -- The prime is five modulo eight. If `u / v` is a square, then `v·x²` is `u` or `-u`, and in the
  -- second case a root of `-1` is missing.
  let x := u * vvv * power (u * vvv * vvv * v) ((prime - 5) / 8)
  let even := fun (x : Coordinate) => if x.val % 2 = 1 then residue _ 0 - x else x
  let check := v * (x * x)
  if check = u then some (even x)
  else if check = residue _ 0 - u then some (even (x * rootOfMinusOne))
  else none

/-- Read the wire form of a point. -/
def decode (octets : Octets 32) : Option Point :=
  let n := Bytes.toNatLittle octets.list
  -- Without its top bit `n` may still be as great as the prime or greater.
  let y := residue prime (n % Nat.pow 2 255)
  let yy := y * y
  match ratioRoot (yy - residue _ 1) (d * yy + residue _ 1) with
  | some x => some (ofAffine (if Nat.pow 2 255 ≤ n then residue _ 0 - x else x) y)
  | none => none

end Wallet.Curve.Edwards
