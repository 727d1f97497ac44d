import Wallet.Radix

/-!
# Arithmetic modulo a prime

Field elements and scalars are residues `Fin m`. Division is by Fermat's theorem: in a prime
field `x ^ (m - 2)` is the inverse of `x`, and of zero it is zero.
-/

namespace Wallet.Modular

/-- A number that can be a modulus. -/
class Modulus (m : Nat) : Prop where
  positive : 0 < m

/-- The residue of a number. -/
def residue (m : Nat) [Modulus m] (n : Nat) : Fin m :=
  ⟨n % m, Nat.mod_lt n Modulus.positive⟩

/-- `x ^ e`, by squaring along the binary digits of the exponent. -/
def power {m : Nat} [Modulus m] (x : Fin m) (e : Nat) : Fin m :=
  (Radix.digits 2 e).foldl
    (fun y digit => if digit = 1 then y * y * x else y * y) (residue m 1)

/-- The inverse modulo a prime. -/
def inverse {m : Nat} [Modulus m] (x : Fin m) : Fin m :=
  power x (m - 2)

end Wallet.Modular
