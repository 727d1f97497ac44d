import Wallet.Curve.Ecdsa
import Wallet.Proofs.Curve.Weierstrass

/-!
# ECDSA signatures and their twins

With the multiples of the base point counted modulo its order, verification is one equation
between scalars (`Fits`): the multiple by `(z + r·d) / s` has to have the `x` coordinate `r`.

A point and its opposite share that coordinate. So `r ‖ s` and its twin `r ‖ (n - s)` fit together
or not at all (`fits_neg_iff`), and it is left to the test of `s` to tell them apart. A signature
that was made with the key fits, unless one of its halves is zero (`fits_sign`).
-/

namespace Wallet.Curve.Ecdsa

open Wallet.Modular Weierstrass

variable {c : Weierstrass}

/-! ## §1. The halves of a signature -/

/-- The first half as a number. -/
def firstHalf (signature : Octets 64) : Nat :=
  Bytes.toNat (signature.list.take 32)

/-- The second half as a number. -/
def secondHalf (signature : Octets 64) : Nat :=
  Bytes.toNat (signature.list.drop 32)

/-- The signature with its second half negated. -/
def twin (c : Weierstrass) (signature : Octets 64) : Octets 64 :=
  (Octets.ofNat 32 (firstHalf signature)).append
    (Octets.ofNat 32 (c.order - secondHalf signature))

theorem firstHalf_append {r : Nat} (hr : r < 256 ^ 32) (second : Octets 32) :
    firstHalf ((Octets.ofNat 32 r).append second) = r := by
  rw [firstHalf, Octets.append, Octets.ofNat, List.take_left' (length_bigEndian _ _),
    toNat_bigEndian hr]

theorem secondHalf_append {s : Nat} (hs : s < 256 ^ 32) (first : Octets 32) :
    secondHalf (first.append (Octets.ofNat 32 s)) = s := by
  rw [secondHalf, Octets.append, Octets.ofNat, List.drop_left' first.length_eq, toNat_bigEndian hs]

theorem firstHalf_twin (signature : Octets 64) :
    firstHalf (twin c signature) = firstHalf signature := by
  have hlt : firstHalf signature < 256 ^ 32 := by
    have hlength : (signature.list.take 32).length = 32 := by simp [signature.length_eq]
    rw [← hlength]
    exact Bytes.toNat_lt _
  exact firstHalf_append hlt _

/-- The second half is below the order, so it has an opposite. -/
theorem secondHalf_twin [Sound c] (signature : Octets 64) :
    secondHalf (twin c signature) = c.order - secondHalf signature :=
  secondHalf_append (Nat.lt_of_le_of_lt (Nat.sub_le _ _) Sound.order_lt) _

/-! ## §2. Verification as an equation -/

/-- The `x` coordinate of a point, taken as a scalar. -/
def abscissa [Sound c] (P : Group c) : Option (ZMod c.order) :=
  (plain? P).map fun xy => (xy.1.val : ZMod c.order)

/-- A point and its opposite have one `x` coordinate. -/
theorem abscissa_neg [Sound c] (P : Group c) : abscissa (-P) = abscissa P := by
  cases P with
  | zero => rfl
  | some x y h => rfl

theorem abscissa_of_stands [Sound c] {p : c.Point} {P : Group c} (hp : Stands p P) :
    p.toAffine.map (fun xy => toZMod (residue c.order xy.1)) = abscissa P := by
  rw [abscissa, ← hp.map_toAffine, Option.map_map]
  congr 1
  funext xy
  show toZMod (residue c.order xy.1.val) = ((toZMod xy.1).val : ZMod c.order)
  rw [toZMod_residue, val_toZMod]

/-- The library takes zero where there is no coordinate. -/
theorem toZMod_scalarOfPoint [Sound c] {p : c.Point} {P : Group c} (hp : Stands p P) :
    toZMod (scalarOfPoint p) = (abscissa P).getD 0 := by
  rw [← abscissa_of_stands hp, scalarOfPoint]
  cases p.toAffine with
  | none => simp
  | some xy => simp

/-- The digest of a message as a scalar. -/
def digest (c : Weierstrass) (message : Bytes) : ZMod c.order :=
  toZMod (messageScalar c message)

/-- What verification asks of `r` and `s`, whichever half of the scalars `s` lies in. The secret is
that of the key. -/
structure Fits (c : Weierstrass) [Sound c] (secret : ZMod c.order) (message : Bytes) (r s : Nat) :
    Prop where
  first : 0 < r ∧ r < c.order
  second : 0 < s ∧ s < c.order
  point : abscissa (multiple c ((digest c message + r * secret) / s)) = some (r : ZMod c.order)

/-- The point of which verification takes the `x` coordinate. -/
theorem stands_verify [Sound c] {key : c.Point} {secret : ZMod c.order}
    (hkey : Stands key (multiple c secret)) (message : Bytes) (r s : Nat) :
    Stands (Point.add (Point.mul (messageScalar c message * inverse (residue c.order s)).val c.base)
        (Point.mul (residue c.order r * inverse (residue c.order s)).val key))
      (multiple c ((digest c message + r * secret) / s)) := by
  have hinverse : toZMod (inverse (residue c.order s)) = (s : ZMod c.order)⁻¹ := by
    rw [toZMod_inverse Sound.two_lt_order, toZMod_residue]
  -- The two scalars that the ladder is run with add up to the quotient.
  have hsum : (digest c message + r * secret) / s =
      toZMod (messageScalar c message * inverse (residue c.order s)) +
        toZMod (residue c.order r * inverse (residue c.order s)) * secret := by
    rw [toZMod_mul, toZMod_mul, toZMod_residue, hinverse, digest]
    ring
  rw [hsum, map_add]
  exact (stands_mul_base _).add (hkey.mul_multiple _)

/-- A signature verifies if it fits, and `s` is not high on a curve that forbids it. -/
theorem verify_eq_true_iff [Sound c] {key : c.Point} {secret : ZMod c.order}
    (hkey : Stands key (multiple c secret)) {message : Bytes} {signature : Octets 64} :
    verify key message signature = true ↔
      ¬ (c.lowS = true ∧ c.order / 2 < secondHalf signature) ∧
        Fits c secret message (firstHalf signature) (secondHalf signature) := by
  rw [verify, ← firstHalf, ← secondHalf, nonzeroScalar?, nonzeroScalar?]
  generalize firstHalf signature = r, secondHalf signature = s
  -- A half that is no scalar other than zero is refused before the point is looked at.
  by_cases hr : 0 < r ∧ r < c.order
  · by_cases hs : 0 < s ∧ s < c.order
    · have hpoint : Fits c secret message r s ↔
          abscissa (multiple c ((digest c message + r * secret) / s)) = some (r : ZMod c.order) :=
        ⟨fun hfits => hfits.point, fun hpoint => ⟨hr, hs, hpoint⟩⟩
      rw [if_pos hr, if_pos hs, hpoint, ← abscissa_of_stands (stands_verify hkey message r s)]
      by_cases hhigh : c.lowS = true ∧ c.order / 2 < s
      · simp [isHigh, hhigh]
      · dsimp only
        rw [if_neg (by simpa [isHigh] using hhigh)]
        cases Point.toAffine _ with
        | none => simp
        | some xy => simp [hhigh, ← toZMod_inj]
    · have hunfit : ¬ Fits c secret message r s := fun hfits => hs hfits.second
      rw [if_pos hr, if_neg hs]
      simp [hunfit]
  · have hunfit : ¬ Fits c secret message r s := fun hfits => hr hfits.first
    rw [if_neg hr]
    simp [hunfit]

theorem Fits.neg [Sound c] {secret : ZMod c.order} {message : Bytes} {r s : Nat}
    (hfits : Fits c secret message r s) : Fits c secret message r (c.order - s) where
  first := hfits.first
  second := by
    have hs := hfits.second
    omega
  point := by
    have hcast : ((c.order - s : Nat) : ZMod c.order) = -(s : ZMod c.order) := by
      rw [Nat.cast_sub hfits.second.2.le, ZMod.natCast_self, zero_sub]
    rw [hcast, div_neg, map_neg, abscissa_neg]
    exact hfits.point

/-- A signature fits if its twin does. -/
theorem fits_neg_iff [Sound c] {secret : ZMod c.order} {message : Bytes} {r s : Nat} :
    Fits c secret message r (c.order - s) ↔ Fits c secret message r s := by
  constructor
  · intro hfits
    have htwice : c.order - (c.order - s) = s := by
      have hs := hfits.second
      omega
    rw [← htwice]
    exact hfits.neg
  · exact Fits.neg

/-! ## §3. Signatures made with the key -/

/-- The first half of a signature. -/
def firstScalar (c : Weierstrass) (secret : Nat) (message : Bytes) : c.Scalar :=
  scalarOfPoint (Point.mul (nonce c secret (messageScalar c message)) c.base)

/-- The second half before it is lowered. -/
def secondScalar (c : Weierstrass) (secret : Nat) (message : Bytes) : c.Scalar :=
  inverse (residue c.order (nonce c secret (messageScalar c message))) *
    (messageScalar c message + firstScalar c secret message * residue c.order secret)

/-- On a curve that asks for it, the lower of a scalar and its opposite. -/
def lower (c : Weierstrass) (s : c.Scalar) : c.Scalar :=
  if c.lowS && isHigh c s then residue c.order 0 - s else s

theorem sign_eq (secret : Nat) (message : Bytes) :
    sign c secret message = (Octets.ofNat 32 (firstScalar c secret message)).append
      (Octets.ofNat 32 (lower c (secondScalar c secret message))) :=
  rfl

theorem firstHalf_sign [Sound c] (secret : Nat) (message : Bytes) :
    firstHalf (sign c secret message) = firstScalar c secret message := by
  rw [sign_eq]
  exact firstHalf_append (Nat.lt_trans (Fin.isLt _) Sound.order_lt) _

theorem secondHalf_sign [Sound c] (secret : Nat) (message : Bytes) :
    secondHalf (sign c secret message) = lower c (secondScalar c secret message) := by
  rw [sign_eq]
  exact secondHalf_append (Nat.lt_trans (Fin.isLt _) Sound.order_lt) _

theorem toZMod_lower (s : c.Scalar) :
    toZMod (lower c s) = toZMod s ∨ toZMod (lower c s) = -toZMod s := by
  unfold lower
  split
  · exact .inr (by simp)
  · exact .inl rfl

theorem lower_le (hlow : c.lowS = true) (s : c.Scalar) : (lower c s).val ≤ c.order / 2 := by
  have hs := s.isLt
  by_cases hhigh : c.order / 2 < s.val
  · -- A scalar above half of the order is not zero, so its opposite does not wrap around.
    have hopposite : (residue c.order 0 - s).val = c.order - s.val := by
      rw [Fin.val_sub, val_residue, Nat.zero_mod, Nat.add_zero, Nat.mod_eq_of_lt (by omega)]
    rw [lower, if_pos (by simp [hlow, isHigh, hhigh]), hopposite]
    omega
  · rw [lower, if_neg (by simp [isHigh, hhigh])]
    omega

theorem toZMod_secondScalar [Sound c] (secret : Nat) (message : Bytes) :
    toZMod (secondScalar c secret message) =
      (nonce c secret (messageScalar c message) : ZMod c.order)⁻¹ *
        (digest c message + toZMod (firstScalar c secret message) * secret) := by
  rw [secondScalar, toZMod_mul, toZMod_inverse Sound.two_lt_order, toZMod_residue, toZMod_add,
    toZMod_mul, toZMod_residue, digest]

/-- The first half is the `x` coordinate of a multiple by the nonce. At infinity there is none, and
the half is zero. -/
theorem abscissa_nonce [Sound c] {secret : Nat} {message : Bytes}
    (hr : (firstScalar c secret message).val ≠ 0) :
    abscissa (multiple c (nonce c secret (messageScalar c message))) =
      some (toZMod (firstScalar c secret message)) := by
  have hfirst := toZMod_scalarOfPoint
    (stands_mul_base (c := c) (nonce c secret (messageScalar c message)))
  rw [← firstScalar] at hfirst
  cases habscissa : abscissa (multiple c (nonce c secret (messageScalar c message))) with
  | none =>
    rw [habscissa, Option.getD_none] at hfirst
    exact absurd (toZMod_eq_zero_iff.mp hfirst) hr
  | some x =>
    rw [habscissa, Option.getD_some] at hfirst
    rw [hfirst]

/-- A signature fits the key that made it, unless one of its halves is zero. -/
theorem fits_sign [Sound c] {secret : Nat} {message : Bytes}
    (hr : firstHalf (sign c secret message) ≠ 0) (hs : secondHalf (sign c secret message) ≠ 0) :
    Fits c secret message (firstHalf (sign c secret message))
      (secondHalf (sign c secret message)) := by
  rw [firstHalf_sign] at hr ⊢
  rw [secondHalf_sign] at hs ⊢
  refine ⟨⟨Nat.pos_of_ne_zero hr, Fin.isLt _⟩, ⟨Nat.pos_of_ne_zero hs, Fin.isLt _⟩, ?_⟩
  have hpoint := abscissa_nonce hr
  have hsecond := toZMod_secondScalar (c := c) secret message
  have hsne : toZMod (lower c (secondScalar c secret message)) ≠ 0 := mt toZMod_eq_zero_iff.mp hs
  -- Verification divides by `s`, which is where signing had multiplied by the inverse of the nonce.
  show abscissa (multiple c ((digest c message + toZMod (firstScalar c secret message) * secret) /
    toZMod (lower c (secondScalar c secret message)))) =
      some (toZMod (firstScalar c secret message))
  generalize digest c message + toZMod (firstScalar c secret message) * secret = total at hsecond ⊢
  generalize (nonce c secret (messageScalar c message) : ZMod c.order) = k at hpoint hsecond
  -- Lowered or not, the quotient is the nonce or its opposite.
  have hquotient : toZMod (secondScalar c secret message) ≠ 0 →
      total / toZMod (secondScalar c secret message) = k := by
    intro hne
    rw [hsecond] at hne ⊢
    have hk : k ≠ 0 := by
      rintro rfl
      exact hne (by rw [inv_zero, zero_mul])
    rw [div_eq_iff hne, mul_inv_cancel_left₀ hk]
  rcases toZMod_lower (secondScalar c secret message) with hlower | hlower
  · rw [hlower] at hsne ⊢
    rw [hquotient hsne, hpoint]
  · rw [hlower] at hsne ⊢
    rw [div_neg, hquotient (neg_ne_zero.mp hsne), map_neg, abscissa_neg, hpoint]

end Wallet.Curve.Ecdsa
