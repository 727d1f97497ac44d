import Mathlib.FieldTheory.Finite.Basic
import Wallet.Curve.Modular
import Wallet.Proofs.Numeral

/-!
# Residues as a field

`toZMod` takes a residue to Mathlib's integers modulo `m`. It commutes with the operations of the
library, and it loses nothing, so equations between residues may be proved over there, where `m`
prime gives a field.

Powers are computed by a run along the binary digits of the exponent, and inverses are powers.
-/

namespace Wallet

namespace Modular

/-! ## §1. Residues -/

variable {m : Nat}

/-- A residue as an integer modulo `m`. -/
def toZMod (x : Fin m) : ZMod m :=
  (x.val : ZMod m)

/-- Residues are below the modulus, so none of them are identified. -/
theorem toZMod_injective : Function.Injective (toZMod : Fin m → ZMod m) := by
  intro x y heq
  apply Fin.ext
  rw [toZMod, toZMod, ZMod.natCast_eq_natCast_iff'] at heq
  rwa [Nat.mod_eq_of_lt x.isLt, Nat.mod_eq_of_lt y.isLt] at heq

@[simp] theorem toZMod_inj {x y : Fin m} : toZMod x = toZMod y ↔ x = y :=
  toZMod_injective.eq_iff

@[simp] theorem toZMod_residue [Modulus m] (n : Nat) : toZMod (residue m n) = n := by
  rw [toZMod, residue, ZMod.natCast_mod]

@[simp] theorem toZMod_add (x y : Fin m) : toZMod (x + y) = toZMod x + toZMod y := by
  rw [toZMod, Fin.val_add, ZMod.natCast_mod, Nat.cast_add]
  rfl

@[simp] theorem toZMod_mul (x y : Fin m) : toZMod (x * y) = toZMod x * toZMod y := by
  rw [toZMod, Fin.val_mul, ZMod.natCast_mod, Nat.cast_mul]
  rfl

@[simp] theorem toZMod_sub (x y : Fin m) : toZMod (x - y) = toZMod x - toZMod y := by
  rw [toZMod, Fin.val_sub, ZMod.natCast_mod, Nat.cast_add, Nat.cast_sub y.isLt.le,
    ZMod.natCast_self, zero_sub, neg_add_eq_sub]
  rfl

@[simp] theorem val_residue [Modulus m] (n : Nat) : (residue m n).val = n % m := rfl

theorem toZMod_eq_zero_iff {x : Fin m} : toZMod x = 0 ↔ x.val = 0 := by
  rw [toZMod, ZMod.natCast_eq_zero_iff]
  exact ⟨fun hdvd => Nat.eq_zero_of_dvd_of_lt hdvd x.isLt, fun hx => hx ▸ Nat.dvd_zero m⟩

theorem eq_residue_iff [Modulus m] {x : Fin m} {n : Nat} : x = residue m n ↔ toZMod x = n := by
  rw [← toZMod_residue, toZMod_inj]

theorem eq_residue_zero_iff [Modulus m] {x : Fin m} : x = residue m 0 ↔ toZMod x = 0 := by
  rw [eq_residue_iff, Nat.cast_zero]

theorem val_toZMod [NeZero m] (x : Fin m) : (toZMod x).val = x.val := by
  rw [toZMod, ZMod.val_natCast, Nat.mod_eq_of_lt x.isLt]

/-! ## §2. Powers and inverses -/

theorem toZMod_power [Modulus m] (x : Fin m) (e : Nat) : toZMod (power x e) = toZMod x ^ e := by
  refine Radix.foldl_digits (by decide) (fun y e => toZMod y = toZMod x ^ e) ?_ ?_ e
  · simp
  · intro y e d hd hy
    -- A digit is zero or one: the exponent is doubled, and one more factor may come in.
    rcases (by omega : d = 0 ∨ d = 1) with rfl | rfl
    · simp [hy, pow_mul, sq]
    · simp [hy, pow_mul, pow_succ]

/-- The inverse is one, by Fermat's theorem; that of zero is zero. -/
theorem toZMod_inverse [Modulus m] [Fact m.Prime] (hm : 2 < m) (x : Fin m) :
    toZMod (inverse x) = (toZMod x)⁻¹ := by
  rw [inverse, toZMod_power]
  by_cases hx : toZMod x = 0
  · rw [hx, inv_zero, zero_pow (by omega)]
  · apply eq_inv_of_mul_eq_one_left
    rw [← pow_succ, show m - 2 + 1 = m - 1 by omega, ZMod.pow_card_sub_one_eq_one hx]

end Modular

end Wallet
