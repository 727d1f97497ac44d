import Mathlib.AlgebraicGeometry.EllipticCurve.Jacobian.Point
import Mathlib.Tactic.LinearCombination
import Wallet.Proofs.Curve.Primality

/-!
# The group of a curve

The points of the library stand for points of Mathlib's elliptic curve in Jacobian coordinates
(`Stands`). Doubling and adding are the group law there, whatever the points are: the two formulas
and the cases around them leave nothing out. So a multiple that the ladder computes is the multiple
in the group (`Stands.mul`), and the multiples of the base point are counted modulo its order
(`multiple`).

What is read off a point at the end, its plain coordinates, depends on the point of the group only.
-/

namespace Wallet.Curve.Weierstrass

open Wallet.Modular WeierstrassCurve Jacobian

/-! ## §1. What is needed of a curve -/

/-- Prime moduli other than two that fit 32 bytes, and a base point on the curve whose multiples
start again at the order. -/
class Sound (c : Weierstrass) : Prop where
  prime_prime : c.prime.Prime
  order_prime : c.order.Prime
  two_lt_prime : 2 < c.prime
  two_lt_order : 2 < c.order
  prime_le : c.prime ≤ 256 ^ 32
  order_lt : c.order < 256 ^ 32
  contains_base : c.contains (residue _ c.baseX) (residue _ c.baseY) = true
  baseY_ne_zero : residue c.prime c.baseY ≠ residue _ 0
  order_base : (Point.mul c.order c.base).z = residue _ 0

set_option maxRecDepth 10000 in
instance : Sound secp256k1 where
  prime_prime := (prime_moduli _ (by simp)).1
  order_prime := (prime_moduli _ (by simp)).2
  two_lt_prime := by decide
  two_lt_order := by decide
  prime_le := by decide
  order_lt := by decide
  contains_base := by decide
  baseY_ne_zero := by decide
  order_base := by decide

set_option maxRecDepth 10000 in
instance : Sound secp256r1 where
  prime_prime := (prime_moduli _ (by simp)).1
  order_prime := (prime_moduli _ (by simp)).2
  two_lt_prime := by decide
  two_lt_order := by decide
  prime_le := by decide
  order_lt := by decide
  contains_base := by decide
  baseY_ne_zero := by decide
  order_base := by decide

variable {c : Weierstrass}

instance [Sound c] : Fact c.prime.Prime := ⟨Sound.prime_prime⟩

instance [Sound c] : Fact c.order.Prime := ⟨Sound.order_prime⟩

/-! ## §2. The formulas -/

/-- The curve as one of Mathlib. -/
def curve (c : Weierstrass) : Jacobian (ZMod c.prime) :=
  ⟨0, 0, 0, c.a, c.b⟩

@[simp] theorem curve_a₁ : (curve c).a₁ = 0 := rfl

@[simp] theorem curve_a₂ : (curve c).a₂ = 0 := rfl

@[simp] theorem curve_a₃ : (curve c).a₃ = 0 := rfl

@[simp] theorem curve_a₄ : (curve c).a₄ = c.a := rfl

@[simp] theorem curve_a₆ : (curve c).a₆ = c.b := rfl

theorem negY_curve (v : Fin 3 → ZMod c.prime) : (curve c).negY v = -v 1 := by
  simp [negY]

namespace Point

/-- The coordinates of a point. -/
def coordinates (p : c.Point) : Fin 3 → ZMod c.prime :=
  ![toZMod p.x, toZMod p.y, toZMod p.z]

@[simp] theorem coordinates_x (p : c.Point) : p.coordinates 0 = toZMod p.x := rfl

@[simp] theorem coordinates_y (p : c.Point) : p.coordinates 1 = toZMod p.y := rfl

@[simp] theorem coordinates_z (p : c.Point) : p.coordinates 2 = toZMod p.z := rfl

theorem coordinates_eq {p : c.Point} {v : Fin 3 → ZMod c.prime} (hx : toZMod p.x = v 0)
    (hy : toZMod p.y = v 1) (hz : toZMod p.z = v 2) : p.coordinates = v := by
  funext i
  fin_cases i
  · exact hx
  · exact hy
  · exact hz

theorem coordinates_infinity : (infinity : c.Point).coordinates = ![1, 1, 0] := by
  simp [coordinates, infinity]

/-- Doubling is Mathlib's formula as it stands. -/
theorem coordinates_double (p : c.Point) :
    p.double.coordinates = (curve c).dblXYZ p.coordinates := by
  apply coordinates_eq
  · simp only [double, dblXYZ_X, dblX, dblU_eq, negY_curve, curve_a₁, curve_a₂, curve_a₄,
      coordinates_x, coordinates_y, coordinates_z, toZMod_add, toZMod_sub, toZMod_mul,
      toZMod_residue, Nat.cast_ofNat]
    ring1
  · simp only [double, dblXYZ_Y, dblY, negDblY, dblX, dblU_eq, negY_curve, fin3_def_ext, curve_a₁,
      curve_a₂, curve_a₄, coordinates_x, coordinates_y, coordinates_z, toZMod_add, toZMod_sub,
      toZMod_mul, toZMod_residue, Nat.cast_ofNat]
    ring1
  · simp only [double, dblXYZ_Z, dblZ, negY_curve, coordinates_y, coordinates_z, toZMod_mul,
      toZMod_residue, Nat.cast_ofNat]
    ring1

/-- Whether two points have one plain `x`, without a division. -/
theorem same_x_iff {p q : c.Point} :
    p.coordinates 0 * q.coordinates 2 ^ 2 = q.coordinates 0 * p.coordinates 2 ^ 2 ↔
      q.x * (p.z * p.z) - p.x * (q.z * q.z) = residue _ 0 := by
  rw [eq_residue_zero_iff, toZMod_sub, sub_eq_zero, eq_comm]
  simp only [coordinates_x, coordinates_z, toZMod_mul, pow_two]

theorem same_y_iff {p q : c.Point} :
    p.coordinates 1 * q.coordinates 2 ^ 3 = q.coordinates 1 * p.coordinates 2 ^ 3 ↔
      q.y * (p.z * p.z) * p.z - p.y * (q.z * q.z) * q.z = residue _ 0 := by
  rw [eq_residue_zero_iff, toZMod_sub, sub_eq_zero, eq_comm]
  simp only [coordinates_y, coordinates_z, toZMod_mul, pow_succ, pow_zero, one_mul, mul_assoc]

end Point

variable [Sound c] {p q : c.Point}

/-- The sum of two points with different plain `x` is that of Mathlib, up to a scaling of the
coordinates that does not change the point. -/
theorem Point.coordinates_add (hp : (curve c).Equation p.coordinates)
    (hq : (curve c).Equation q.coordinates) (hpz : p.z ≠ residue _ 0) (hqz : q.z ≠ residue _ 0)
    (hx : q.x * (p.z * p.z) - p.x * (q.z * q.z) ≠ residue _ 0) :
    (Point.add p q).coordinates =
      -(toZMod p.z * toZMod q.z) • (curve c).addXYZ p.coordinates q.coordinates := by
  have hX := addX_eq' hp hq
  have hY := (curve c).negAddY_eq' p.coordinates q.coordinates
  simp only [addZ, coordinates_x, coordinates_y, coordinates_z, curve_a₁, curve_a₂] at hX hY
  rw [Point.add, if_neg hpz, if_neg hqz, if_neg hx]
  apply coordinates_eq
  · simp only [smul_fin3_ext, addXYZ_X, toZMod_sub, toZMod_mul, toZMod_add]
    linear_combination -hX
  · simp only [smul_fin3_ext, addXYZ_Y, addY, negY_curve, fin3_def_ext, toZMod_sub, toZMod_mul,
      toZMod_add]
    linear_combination -hY - (toZMod p.y * toZMod q.z ^ 3 - toZMod q.y * toZMod p.z ^ 3) * hX
  · simp only [smul_fin3_ext, addXYZ_Z, addZ, coordinates_x, coordinates_z, toZMod_sub, toZMod_mul]
    ring1

/-! ## §3. The group law -/

/-- The points of the curve with the point at infinity. -/
abbrev Group (c : Weierstrass) [Sound c] : Type :=
  (curve c).toAffine.Point

/-- The point of the group that coordinates stand for. -/
structure Stands (p : c.Point) (P : Group c) : Prop where
  nonsingular : (curve c).Nonsingular p.coordinates
  toAffine : Jacobian.Point.toAffine (curve c) p.coordinates = P

namespace Stands

variable {P Q : Group c}

theorem infinity : Stands (infinity : c.Point) 0 where
  nonsingular := by
    rw [Point.coordinates_infinity]
    exact nonsingular_zero
  toAffine := by
    rw [Point.coordinates_infinity]
    exact Jacobian.Point.toAffine_zero

theorem double (hp : Stands p P) : Stands p.double (P + P) where
  nonsingular := by
    rw [Point.coordinates_double, ← add_self]
    exact nonsingular_add hp.nonsingular hp.nonsingular
  toAffine := by
    rw [Point.coordinates_double, ← add_self,
      Jacobian.Point.toAffine_add hp.nonsingular hp.nonsingular, hp.toAffine]

/-- The point at infinity is the one with `z` zero. -/
theorem eq_zero_iff (hp : Stands p P) : P = 0 ↔ p.z = residue _ 0 := by
  rw [eq_residue_zero_iff, ← hp.toAffine]
  constructor
  · intro hzero
    by_contra hz
    rw [Jacobian.Point.toAffine_of_Z_ne_zero hp.nonsingular hz] at hzero
    exact Affine.Point.some_ne_zero _ hzero
  · exact fun hz => Jacobian.Point.toAffine_of_Z_eq_zero hz

/-- Two points with one plain `x` are equal or opposite. -/
theorem add_of_same_x (hp : Stands p P) (hq : Stands q Q) (hpz : p.z ≠ residue _ 0)
    (hqz : q.z ≠ residue _ 0) (hx : q.x * (p.z * p.z) - p.x * (q.z * q.z) = residue _ 0) :
    Stands (Point.add p q) (P + Q) := by
  have hpz' : p.coordinates 2 ≠ 0 := mt eq_residue_zero_iff.mpr hpz
  have hqz' : q.coordinates 2 ≠ 0 := mt eq_residue_zero_iff.mpr hqz
  have hX := Point.same_x_iff.mpr hx
  rw [Point.add, if_neg hpz, if_neg hqz]
  dsimp only
  rw [if_pos hx]
  by_cases hy : q.y * (p.z * p.z) * p.z - p.y * (q.z * q.z) * q.z = residue _ 0
  · have hY := Point.same_y_iff.mpr hy
    -- Both coordinates agree: the points are the same, and the sum is the double.
    have hsame : P = Q := by
      rw [← hp.toAffine, ← hq.toAffine]
      exact Jacobian.Point.toAffine_of_equiv (equiv_of_X_eq_of_Y_eq hpz' hqz' hX hY)
    rw [if_pos hy, ← hsame]
    exact hp.double
  · have hY := mt Point.same_y_iff.mp hy
    -- Only `x` agrees: the points are opposite.
    have hopposite : P + Q = 0 := by
      rw [← hp.toAffine, ← hq.toAffine, ← Jacobian.Point.toAffine_add hp.nonsingular hq.nonsingular,
        add_of_Y_ne hp.nonsingular.left hq.nonsingular.left hpz' hqz' hX hY,
        Jacobian.Point.toAffine_smul _ (isUnit_addU_of_Y_ne hpz' hqz' hY),
        Jacobian.Point.toAffine_zero]
    rw [if_neg hy, hopposite]
    exact infinity

/-- Adding is the group law, whatever the points are. -/
theorem add (hp : Stands p P) (hq : Stands q Q) : Stands (Point.add p q) (P + Q) := by
  by_cases hpz : p.z = residue _ 0
  · rw [Point.add, if_pos hpz, hp.eq_zero_iff.mpr hpz, zero_add]
    exact hq
  by_cases hqz : q.z = residue _ 0
  · rw [Point.add, if_neg hpz, if_pos hqz, hq.eq_zero_iff.mpr hqz, add_zero]
    exact hp
  by_cases hx : q.x * (p.z * p.z) - p.x * (q.z * q.z) = residue _ 0
  · exact hp.add_of_same_x hq hpz hqz hx
  -- The scaling by which the two sums differ is by a unit.
  have hunit : IsUnit (-(toZMod p.z * toZMod q.z)) := by
    rw [eq_residue_zero_iff] at hpz hqz
    exact (neg_ne_zero.mpr (mul_ne_zero hpz hqz)).isUnit
  have hne : ¬ p.coordinates ≈ q.coordinates := not_equiv_of_X_ne (mt Point.same_x_iff.mp hx)
  have hcoordinates := Point.coordinates_add hp.nonsingular.left hq.nonsingular.left hpz hqz hx
  rw [← add_of_not_equiv hne] at hcoordinates
  constructor
  · rw [hcoordinates, nonsingular_smul _ hunit]
    exact nonsingular_add hp.nonsingular hq.nonsingular
  · rw [hcoordinates, Jacobian.Point.toAffine_smul _ hunit,
      Jacobian.Point.toAffine_add hp.nonsingular hq.nonsingular, hp.toAffine, hq.toAffine]

/-- The ladder computes the multiple. -/
theorem mul (hp : Stands p P) (k : Nat) : Stands (Point.mul k p) (k • P) := by
  refine Radix.foldl_digits (by decide) (fun q k => Stands q (k • P)) ?_ ?_ k
  · rw [zero_nsmul]
    exact infinity
  · intro q k d hd hq
    -- A digit is zero or one: the multiple is doubled, and the point itself may come in once more.
    have hdouble : (k * 2) • P = k • P + k • P := by rw [mul_nsmul, two_nsmul]
    rcases (by omega : d = 0 ∨ d = 1) with rfl | rfl
    · rw [if_neg (by decide), Nat.add_zero, hdouble]
      exact hq.double
    · rw [if_pos rfl, add_nsmul, one_nsmul, hdouble]
      exact hq.double.add hp

end Stands

variable {P Q : Group c}

/-! ## §4. Multiples of the base point -/

theorem contains_iff {x y : c.Coordinate} :
    c.contains x y = true ↔ (curve c).toAffine.Equation (toZMod x) (toZMod y) := by
  rw [contains, beq_iff_eq, ← toZMod_inj, Affine.equation_iff]
  simp [pow_succ]

/-- Plain coordinates stand for the point that they describe. -/
theorem Stands.ofPlain {x y : c.Coordinate}
    (h : (curve c).toAffine.Nonsingular (toZMod x) (toZMod y)) :
    Stands (⟨x, y, residue _ 1⟩ : c.Point) (.some _ _ h) := by
  have hcoordinates : Point.coordinates ⟨x, y, residue _ 1⟩ = ![toZMod x, toZMod y, 1] := by
    simp [Point.coordinates]
  have hnonsingular : (curve c).Nonsingular ![toZMod x, toZMod y, 1] :=
    (Jacobian.nonsingular_some _ _).mpr h
  constructor
  · rw [hcoordinates]
    exact hnonsingular
  · rw [hcoordinates, Jacobian.Point.toAffine_some hnonsingular]

/-- A point with `y` other than zero is never singular, since the characteristic is not two. -/
theorem nonsingular_of_contains {x y : c.Coordinate} (hcontains : c.contains x y = true)
    (hy : y ≠ residue _ 0) : (curve c).toAffine.Nonsingular (toZMod x) (toZMod y) := by
  rw [Affine.nonsingular_iff]
  refine ⟨contains_iff.mp hcontains, .inr fun hneg => hy ?_⟩
  -- If the point were singular, its `y` would be its own opposite.
  have htwo : (2 : ZMod c.prime) ≠ 0 := by
    have hmod := mt (ZMod.natCast_eq_zero_iff 2 c.prime).mp
      (Nat.not_dvd_of_pos_of_lt (by decide) Sound.two_lt_prime)
    exact_mod_cast hmod
  rw [eq_residue_zero_iff]
  apply (mul_eq_zero.mp _).resolve_left htwo
  simp only [curve_a₁, curve_a₃] at hneg
  linear_combination hneg

theorem nonsingular_base : (curve c).toAffine.Nonsingular (toZMod (residue c.prime c.baseX))
    (toZMod (residue c.prime c.baseY)) :=
  nonsingular_of_contains Sound.contains_base Sound.baseY_ne_zero

/-- The base point in the group. -/
def generator (c : Weierstrass) [Sound c] : Group c :=
  .some _ _ nonsingular_base

theorem stands_base : Stands c.base (generator c) :=
  Stands.ofPlain nonsingular_base

theorem order_nsmul_generator : c.order • generator c = 0 :=
  (stands_base.mul c.order).eq_zero_iff.mpr Sound.order_base

/-- The multiples of the base point, counted modulo its order. -/
def multiple (c : Weierstrass) [Sound c] : ZMod c.order →+ Group c :=
  ZMod.lift c.order ⟨zmultiplesHom _ (generator c), by simp [order_nsmul_generator]⟩

theorem multiple_natCast (k : Nat) : multiple c k = k • generator c := by
  rw [← Int.cast_natCast k, multiple, ZMod.lift_coe]
  exact natCast_zsmul (generator c) k

/-- No multiple below the order is the point at infinity. -/
theorem multiple_eq_zero_iff {e : ZMod c.order} : multiple c e = 0 ↔ e = 0 := by
  constructor
  · intro hzero
    -- The order is prime and the base point is not zero, so no smaller multiple is.
    have horder : addOrderOf (generator c) = c.order :=
      addOrderOf_eq_prime order_nsmul_generator (Affine.Point.some_ne_zero _)
    rw [← ZMod.natCast_zmod_val e, multiple_natCast, ← addOrderOf_dvd_iff_nsmul_eq_zero,
      horder] at hzero
    rw [← ZMod.natCast_zmod_val e, (ZMod.natCast_eq_zero_iff _ _).mpr hzero]
  · rintro rfl
    exact map_zero _

theorem stands_mul_base (k : Nat) : Stands (Point.mul k c.base) (multiple c k) := by
  rw [multiple_natCast]
  exact stands_base.mul k

theorem Stands.mul_multiple {e : ZMod c.order} (hp : Stands p (multiple c e)) (k : Nat) :
    Stands (Point.mul k p) (multiple c (k * e)) := by
  rw [← nsmul_eq_mul, map_nsmul]
  exact hp.mul k

/-! ## §5. Plain coordinates -/

/-- The plain coordinates of a point of the group. -/
def plain? : Group c → Option (ZMod c.prime × ZMod c.prime)
  | .zero => none
  | .some x y _ => some (x, y)

/-- The plain coordinates are those of the point of the group, whatever `z` is. -/
theorem Stands.map_toAffine (hp : Stands p P) :
    p.toAffine.map (fun xy => (toZMod xy.1, toZMod xy.2)) = plain? P := by
  by_cases hz : p.z = residue _ 0
  · rw [Point.toAffine, if_pos hz, hp.eq_zero_iff.mpr hz]
    rfl
  · have hz' : p.coordinates 2 ≠ 0 := mt eq_residue_zero_iff.mpr hz
    rw [Point.toAffine, if_neg hz, ← hp.toAffine,
      Jacobian.Point.toAffine_of_Z_ne_zero hp.nonsingular hz', plain?, Option.map_some]
    simp [toZMod_inverse Sound.two_lt_prime, div_eq_mul_inv, pow_succ, mul_assoc]

/-- A point that is sent as its plain coordinates is received as the same point. -/
theorem Stands.decode_encode (hp : Stands p P) (hP : P ≠ 0) :
    ∃ q, decode c (encode p).list = some q ∧ Stands q P := by
  cases P with
  | zero => exact absurd rfl hP
  | some X Y hXY =>
  have hplain := hp.map_toAffine
  rw [plain?, Option.map_eq_some_iff] at hplain
  obtain ⟨⟨x, y⟩, hxy, heq⟩ := hplain
  obtain ⟨rfl, rfl⟩ := Prod.mk.inj heq
  -- Each coordinate fills its own half of the bytes.
  have hx : x.val < 256 ^ 32 := Nat.lt_of_lt_of_le x.isLt Sound.prime_le
  have hy : y.val < 256 ^ 32 := Nat.lt_of_lt_of_le y.isLt Sound.prime_le
  have hlist : (encode p).list = bigEndian 32 x.val ++ bigEndian 32 y.val := by
    rw [encode, hxy]
    rfl
  have hresidue (z : c.Coordinate) : residue c.prime z.val = z := (eq_residue_iff.mpr rfl).symm
  refine ⟨⟨x, y, residue _ 1⟩, ?_, Stands.ofPlain hXY⟩
  rw [hlist, decode, List.take_left' (length_bigEndian _ _),
    List.drop_left' (length_bigEndian _ _), toNat_bigEndian hx, toNat_bigEndian hy, hresidue,
    hresidue, if_pos ⟨by simp, x.isLt, y.isLt, contains_iff.mpr hXY.left⟩]

end Wallet.Curve.Weierstrass
