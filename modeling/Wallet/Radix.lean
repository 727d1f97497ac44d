import Wallet.Bytes

/-!
# Positional numerals

`digits b n` writes `n` in base `b` without leading zeros, so that zero has no digits at all;
`value b` reads a numeral. Base58 is a change of numeral between base 256 and base 58 that keeps
leading zeros, and decimal output uses base 10.
-/

namespace Wallet.Radix

/-- At most `count` digits of `n`, the least significant ones, in front of `tail`. -/
def digitsOnto (base : Nat) : (count n : Nat) → (tail : List Nat) → List Nat
  | 0, _, tail => tail
  | count + 1, n, tail =>
    if n = 0 then tail else digitsOnto base count (n / base) (n % base :: tail)

/-- The digits of `n` in base `base`, most significant first, without leading zeros. A number has
no more digits than bits, provided that the base is at least two. -/
def digits (base n : Nat) : List Nat :=
  digitsOnto base (n.log2 + 1) n []

/-- The number that a list of digits spells in base `base`. -/
def value (base : Nat) (ds : List Nat) : Nat :=
  ds.foldl (fun n d => n * base + d) 0

end Wallet.Radix
