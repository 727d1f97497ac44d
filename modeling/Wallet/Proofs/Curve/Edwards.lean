import Mathlib.NumberTheory.LegendreSymbol.Basic
import Mathlib.Tactic.LinearCombination
import Wallet.Curve.Ed25519
import Wallet.Proofs.Curve.Primality

/-!
# Points that are computed are read

The formulas for adding and doubling have no exceptions on the curve of Ed25519, because its
constant `d` is no square (`OnCurve.product_ne`). So whatever is computed from the base point is a
point of the curve (`Point.OnCurve.mul`).

Reading takes a square root of a ratio. The prime is five modulo eight, so if there is a root, then
one power of the ratio is that root up to a fourth root of one, and both cases are tried
(`isSome_ratioRoot`). Hence the wire form of a point is accepted, in particular every public key of
a seed.
-/

namespace Wallet.Curve.Edwards

open Wallet.Modular

/-! ## §1. The field -/

/-- Primes that can be tried. -/
def smallFactors : List Nat :=
  [127, 4153, 75707, 430751, 8574133]

theorem prime_of_mem_smallFactors : ∀ q ∈ smallFactors, q.Prime := by
  norm_num [smallFactors]

/-- What leads from these to the modulus. -/
def primeCertificates : List Certificate :=
  [⟨1919519569386763, 2, by decide, [127, 8574133]⟩,
  ⟨75445702479781427272750846543864801, 2, by decide, [75707, 1919519569386763]⟩,
  ⟨31757755568855353, 2, by decide, [4153, 430751]⟩,
  ⟨74058212732561358302231226437062788676166966415465897661863160754340907, 2, by decide,
    [31757755568855353, 75445702479781427272750846543864801]⟩,
  ⟨prime, 2, by decide,
    [74058212732561358302231226437062788676166966415465897661863160754340907]⟩]

set_option maxRecDepth 10000 in
theorem checkAll_primeCertificates : checkAll smallFactors primeCertificates = true := by
  decide

theorem prime_prime : prime.Prime :=
  -- The last certificate is the one of the modulus.
  prime_of_checkAll prime_of_mem_smallFactors checkAll_primeCertificates
    (primeCertificates.getLast (by simp [primeCertificates])) (List.getLast_mem _)

instance : Fact prime.Prime := ⟨prime_prime⟩

theorem two_ne_zero : (2 : ZMod prime) ≠ 0 := by
  intro hzero
  have hdvd : prime ∣ 2 := (ZMod.natCast_eq_zero_iff 2 prime).mp (by exact_mod_cast hzero)
  exact absurd (Nat.le_of_dvd (by decide) hdvd) (by decide)

/-- The constant of the library is a root of minus one. -/
theorem toZMod_rootOfMinusOne : toZMod rootOfMinusOne ^ 2 = -1 := by
  have hroot : rootOfMinusOne * rootOfMinusOne = residue _ 0 - residue _ 1 := by decide
  have hcast := congrArg toZMod hroot
  rw [toZMod_mul, toZMod_sub, toZMod_residue, toZMod_residue] at hcast
  rw [pow_two, hcast]
  simp

set_option maxRecDepth 10000 in
/-- By Euler's criterion. -/
theorem not_isSquare_d : ¬ IsSquare (toZMod d) := by
  have hpower : power d (prime / 2) = residue _ 0 - residue _ 1 := by decide
  have hcast := congrArg toZMod hpower
  rw [toZMod_power, toZMod_sub, toZMod_residue, toZMod_residue, Nat.cast_zero, Nat.cast_one,
    zero_sub] at hcast
  intro hsquare
  have hd : toZMod d ≠ 0 := by
    rw [Ne, toZMod_eq_zero_iff]
    decide
  rw [(ZMod.euler_criterion prime hd).mp hsquare] at hcast
  apply two_ne_zero
  linear_combination hcast

/-! ## §2. The formulas -/

section Formulas

variable {F : Type*} [Field F] {d i : F} {x₁ y₁ z₁ t₁ x₂ y₂ z₂ t₂ : F}

/-- The coordinates of a point of the curve. -/
structure OnCurve (d x y z t : F) : Prop where
  z_ne_zero : z ≠ 0
  product : x * y = z * t
  curve : y ^ 2 - x ^ 2 = z ^ 2 + d * t ^ 2

/-- What makes the formulas complete. -/
structure Complete (d i : F) : Prop where
  not_square : ¬ IsSquare d
  root : i ^ 2 = -1
  two_ne_zero : (2 : F) ≠ 0

/-- The square of `y + j·x` for a root `j` of minus one, without `x` and `y`. -/
theorem OnCurve.sq_add {x y z t : F} (hp : OnCurve d x y z t) {j : F} (hj : j ^ 2 = -1) :
    (y + j * x) ^ 2 = z ^ 2 + d * t ^ 2 + 2 * j * (z * t) := by
  linear_combination hp.curve + 2 * j * hp.product + x ^ 2 * hj

theorem OnCurve.sq_sum {x y z t : F} (hp : OnCurve d x y z t) :
    (x ^ 2 + y ^ 2) ^ 2 = (z ^ 2 + d * t ^ 2) ^ 2 + 4 * (z * t) ^ 2 := by
  rw [← hp.curve, ← hp.product]
  ring

variable (hcomplete : Complete d i) (hp : OnCurve d x₁ y₁ z₁ t₁) (hq : OnCurve d x₂ y₂ z₂ t₂)

include hcomplete hp hq

/-- No denominator is zero. Otherwise `d` would be the square of a quotient of `y + i·x` for the two
points, or of `y - i·x`, since these are not both zero. -/
theorem OnCurve.product_ne {sign : F} (hsign : sign ^ 2 = 1) :
    z₁ * z₂ ≠ sign * (d * t₁ * t₂) := by
  intro heq
  have ht : t₁ ≠ 0 := by
    rintro rfl
    exact mul_ne_zero hp.z_ne_zero hq.z_ne_zero (by rw [heq]; ring)
  have hzero (j : F) (hj : j ^ 2 = -1) : y₂ + j * x₂ = 0 := by
    by_contra hne
    -- The sign goes into the root, so that one computation does for both denominators.
    have hroot : (sign * j) ^ 2 = -1 := by rw [mul_pow, hsign, hj, one_mul]
    have hratio : (z₂ * (y₁ + sign * j * x₁)) ^ 2 = d * (t₁ * (y₂ + j * x₂)) ^ 2 := by
      rw [mul_pow, mul_pow, hp.sq_add hroot, hq.sq_add hj]
      linear_combination (z₁ * z₂ + sign * (d * t₁ * t₂) + 2 * sign * j * t₁ * z₂) * heq +
        (d ^ 2 * t₁ ^ 2 * t₂ ^ 2 + 2 * j * d * t₁ ^ 2 * z₂ * t₂) * hsign
    refine hcomplete.not_square ⟨z₂ * (y₁ + sign * j * x₁) / (t₁ * (y₂ + j * x₂)), ?_⟩
    rw [div_mul_div_comm, eq_div_iff (by simp [ht, hne])]
    linear_combination -hratio
  -- Both roots of minus one give zero, which leaves nothing of `y`.
  have hplus := hzero i hcomplete.root
  have hminus := hzero (-i) (by rw [neg_sq, hcomplete.root])
  have hy : y₂ = 0 := by
    apply (mul_eq_zero.mp _).resolve_left hcomplete.two_ne_zero
    linear_combination hplus + hminus
  -- Then the other point has `t = 0`, and with it `z₁·z₂` is zero.
  have ht₂ : t₂ = 0 := by
    apply (mul_eq_zero.mp _).resolve_left hq.z_ne_zero
    rw [← hq.product, hy, mul_zero]
  exact mul_ne_zero hp.z_ne_zero hq.z_ne_zero (by rw [heq, ht₂, mul_zero, mul_zero])

/-- The sum of two points, up to a scaling of the coordinates, is a point. -/
theorem OnCurve.sum {k : F} (hk : k ≠ 0) :
    let e := x₁ * y₂ + x₂ * y₁
    let f := z₁ * z₂ - d * t₁ * t₂
    let g := z₁ * z₂ + d * t₁ * t₂
    let h := y₁ * y₂ + x₁ * x₂
    OnCurve d (k * (e * f)) (k * (g * h)) (k * (f * g)) (k * (e * h)) := by
  intro e f g h
  have hf : f ≠ 0 := by
    have hne := hp.product_ne hcomplete hq (one_pow 2)
    intro hzero
    apply hne
    linear_combination hzero
  have hg : g ≠ 0 := by
    have hne := hp.product_ne hcomplete hq (show (-1 : F) ^ 2 = 1 by ring)
    intro hzero
    apply hne
    linear_combination hzero
  -- The rest is in terms of `z` and `t` alone, but for the sums `x² + y²`.
  have hdifference : h ^ 2 - e ^ 2 = (z₁ ^ 2 + d * t₁ ^ 2) * (z₂ ^ 2 + d * t₂ ^ 2) := by
    rw [← hp.curve, ← hq.curve]
    ring
  have hproduct : e * h = z₁ * t₁ * (x₂ ^ 2 + y₂ ^ 2) + z₂ * t₂ * (x₁ ^ 2 + y₁ ^ 2) := by
    rw [← hp.product, ← hq.product]
    ring
  have hsum : h ^ 2 + e ^ 2 =
      (x₁ ^ 2 + y₁ ^ 2) * (x₂ ^ 2 + y₂ ^ 2) + 4 * (z₁ * t₁) * (z₂ * t₂) := by
    rw [← hp.product, ← hq.product]
    ring
  have hcurve : (g * h) ^ 2 - (e * f) ^ 2 = (f * g) ^ 2 + d * (e * h) ^ 2 := by
    rw [hproduct]
    linear_combination
      (z₁ ^ 2 * z₂ ^ 2 + d ^ 2 * t₁ ^ 2 * t₂ ^ 2) * hdifference +
      2 * d * z₁ * z₂ * t₁ * t₂ * hsum -
      d * (z₁ * t₁) ^ 2 * hq.sq_sum - d * (z₂ * t₂) ^ 2 * hp.sq_sum
  refine ⟨mul_ne_zero hk (mul_ne_zero hf hg), by ring, ?_⟩
  linear_combination k ^ 2 * hcurve

end Formulas

/-! ## §3. Points -/

theorem complete : Complete (toZMod d) (toZMod rootOfMinusOne) :=
  ⟨not_isSquare_d, toZMod_rootOfMinusOne, two_ne_zero⟩

namespace Point

/-- A point of the curve. -/
def OnCurve (p : Point) : Prop :=
  Edwards.OnCurve (toZMod d) (toZMod p.x) (toZMod p.y) (toZMod p.z) (toZMod p.t)

variable {p q : Point}

theorem onCurve_neutral : OnCurve neutral := by
  refine ⟨?_, ?_, ?_⟩
  all_goals simp [neutral]

/-- The library's sum is the sum of the formulas with every coordinate multiplied by four. -/
theorem OnCurve.add (hp : p.OnCurve) (hq : q.OnCurve) : (p.add q).OnCurve := by
  have hfour : (4 : ZMod prime) ≠ 0 := by
    rw [show (4 : ZMod prime) = 2 * 2 by ring]
    exact mul_ne_zero two_ne_zero two_ne_zero
  have hsum := Edwards.OnCurve.sum complete hp hq hfour
  unfold OnCurve
  convert hsum using 1
  all_goals
    simp only [Point.add, toZMod_mul, toZMod_add, toZMod_sub, toZMod_residue, Nat.cast_ofNat]
    ring

/-- Doubling is adding with every coordinate negated; this takes the equation of the curve. -/
theorem OnCurve.double (hp : p.OnCurve) : p.double.OnCurve := by
  have hsum := Edwards.OnCurve.sum complete hp hp (neg_ne_zero.mpr one_ne_zero)
  have hcurve := hp.curve
  unfold OnCurve
  convert hsum using 1
  all_goals
    simp only [Point.double, toZMod_mul, toZMod_add, toZMod_sub, toZMod_residue, Nat.cast_ofNat]
  · linear_combination (2 * toZMod p.x * toZMod p.y) * hcurve
  · linear_combination (-(toZMod p.x ^ 2 + toZMod p.y ^ 2)) * hcurve
  · linear_combination (toZMod p.y ^ 2 - toZMod p.x ^ 2 - toZMod p.z ^ 2 +
      toZMod d * toZMod p.t ^ 2) * hcurve
  · ring

theorem OnCurve.mul (hp : p.OnCurve) (k : Nat) : (Point.mul k p).OnCurve := by
  refine Radix.foldl_digits (by decide : 1 < 2) (fun (q : Point) _ => q.OnCurve)
    onCurve_neutral ?_ k
  -- A step doubles, and adds the point if the digit is one.
  intro q _ digit _ hq
  split
  · exact hq.double.add hp
  · exact hq.double

theorem onCurve_base : OnCurve base := by
  have hcurve : base.y * base.y - base.x * base.x = residue _ 1 + d * (base.t * base.t) := by
    decide
  have hcast := congrArg toZMod hcurve
  simp only [toZMod_mul, toZMod_add, toZMod_sub, toZMod_residue, Nat.cast_one] at hcast
  refine ⟨?_, ?_, ?_⟩
  · simp [base, ofAffine]
  · simp [base, ofAffine]
  · have hz : toZMod base.z = 1 := by simp [base, ofAffine]
    rw [hz]
    linear_combination hcast

end Point

/-! ## §4. Reading -/

/-- Fermat's theorem, with the exponent as it comes up below. -/
theorem pow_eq_one {a : ZMod prime} (ha : a ≠ 0) : a ^ (8 * ((prime - 5) / 8) + 4) = 1 := by
  have hcard : 8 * ((prime - 5) / 8) + 4 = prime - 1 := by decide
  rw [hcard, ZMod.pow_card_sub_one_eq_one ha]

/-- A ratio `u / v` that is a square has a root that is found. The candidate is `x` to the power
`2·e + 2` for the prime `8·e + 5`, and its square is `x²` up to a square root of one. -/
theorem isSome_ratioRoot {u v x : Coordinate} (hv : toZMod v ≠ 0) (hu : u = x * x * v) :
    (ratioRoot u v).isSome = true := by
  let e := (prime - 5) / 8
  let root := u * (v * v * v) * power (u * (v * v * v) * (v * v * v) * v) e
  have hroot : toZMod root = toZMod x ^ (2 * e + 2) := by
    calc toZMod root
        _ = toZMod x ^ (2 * e + 2) * toZMod v ^ (8 * e + 4) := by
          simp only [root, hu, toZMod_mul, toZMod_power]
          ring
        _ = toZMod x ^ (2 * e + 2) := by rw [pow_eq_one hv, mul_one]
  have hcheck : toZMod (v * (root * root)) = toZMod u * toZMod x ^ (4 * e + 2) := by
    rw [hu]
    simp only [toZMod_mul, hroot]
    ring
  -- A root of one is one or minus one, and both are tried.
  have hfound : v * (root * root) = u ∨ v * (root * root) = residue _ 0 - u := by
    by_cases hx : toZMod x = 0
    · left
      rw [← toZMod_inj, hcheck, hu, toZMod_mul, toZMod_mul, hx]
      simp
    · have hsign : toZMod x ^ (4 * e + 2) * toZMod x ^ (4 * e + 2) = 1 := by
        rw [← pow_eq_one hx]
        ring
      rcases mul_self_eq_one_iff.mp hsign with hone | hminus
      · left
        rw [← toZMod_inj, hcheck, hone, mul_one]
      · right
        rw [← toZMod_inj, hcheck, hminus, toZMod_sub, toZMod_residue]
        simp
  simp only [ratioRoot]
  split
  · rfl
  · next hne =>
    rw [if_pos (hfound.resolve_left hne)]
    rfl

/-- What stands on the wire is the `y` coordinate, below a bit. -/
theorem toNatLittle_encode (p : Point) :
    Bytes.toNatLittle (encode p).list % Nat.pow 2 255 = (p.y * inverse p.z).val := by
  have hy : (p.y * inverse p.z).val < Nat.pow 2 255 :=
    Nat.lt_of_lt_of_le (p.y * inverse p.z).isLt (by decide)
  have hparity : (p.x * inverse p.z).val % 2 ≤ 1 := Nat.le_of_lt_succ (Nat.mod_lt _ (by decide))
  have hbit : (p.x * inverse p.z).val % 2 * Nat.pow 2 255 ≤ Nat.pow 2 255 := by
    simpa using Nat.mul_le_mul_right (Nat.pow 2 255) hparity
  have hfits := Nat.add_lt_add_of_le_of_lt hbit hy
  rw [encode, Bytes.toNatLittle_littleEndian hfits, Nat.add_comm, Nat.add_mul_mod_self_right,
    Nat.mod_eq_of_lt hy]

/-- The denominator is not zero, since otherwise `d` would be the square of the root of minus one
over `y`. -/
theorem ratio_ne_zero (y : Coordinate) : toZMod (d * (y * y) + residue _ 1) ≠ 0 := by
  rw [toZMod_add, toZMod_mul, toZMod_mul, toZMod_residue, Nat.cast_one]
  intro hzero
  have hy : toZMod y ≠ 0 := by
    intro hy
    rw [hy] at hzero
    simp at hzero
  apply not_isSquare_d
  refine ⟨toZMod rootOfMinusOne / toZMod y, ?_⟩
  rw [div_mul_div_comm, eq_div_iff (mul_ne_zero hy hy)]
  linear_combination hzero - toZMod_rootOfMinusOne

/-- A `y` coordinate is read if there is an `x` to it. -/
theorem isSome_decode {octets : Octets 32} {x y : Coordinate}
    (hbytes : Bytes.toNatLittle octets.list % Nat.pow 2 255 = y.val)
    (hcurve : y * y - residue _ 1 = x * x * (d * (y * y) + residue _ 1)) :
    (decode octets).isSome = true := by
  obtain ⟨root, hroot⟩ := Option.isSome_iff_exists.mp (isSome_ratioRoot (ratio_ne_zero y) hcurve)
  have hy : residue prime y.val = y := Fin.ext (Nat.mod_eq_of_lt y.isLt)
  unfold decode
  dsimp only
  rw [hbytes, hy, hroot]
  exact Option.isSome_some

/-- **The wire form of a point of the curve is read.** -/
theorem isSome_decode_encode {p : Point} (hp : p.OnCurve) : (decode (encode p)).isSome = true := by
  apply isSome_decode (toNatLittle_encode p) (x := p.x * inverse p.z)
  rw [← toZMod_inj]
  simp only [toZMod_mul, toZMod_add, toZMod_sub, toZMod_residue, Nat.cast_one,
    toZMod_inverse (by decide : 2 < prime)]
  -- In plain coordinates the equation is that of the curve, divided by `z⁴`.
  have hz := hp.z_ne_zero
  have hproduct := hp.product
  have hcurve := hp.curve
  field_simp
  linear_combination toZMod p.z ^ 2 * hcurve -
    toZMod d * (toZMod p.x * toZMod p.y + toZMod p.z * toZMod p.t) * hproduct

/-- Every public key of a seed is the wire form of a point. -/
theorem isSome_decode_publicKey (seed : Octets 32) :
    (decode (Ed25519.publicKey seed)).isSome = true :=
  isSome_decode_encode (Point.onCurve_base.mul _)

end Wallet.Curve.Edwards
