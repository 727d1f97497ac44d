import Wallet.Radix

/-!
# Floating point numbers that pass through

A number in a document that is not an integer is kept as a binary floating point number of 64
bits, because that is how it is written out again. The wallet never computes with it.

A value is `mantissa * 2 ^ exponent` with a mantissa below `2 ^ 53`, computed exactly on natural
numbers. Reading takes the digits as an integer of 64 bits, rounds it, and multiplies or divides
by a power of ten, rounding again. Writing finds the shortest decimal that rounds back.
-/

namespace Wallet.Json

/-- A finite binary floating point number. -/
structure Binary64 where
  negative : Bool
  mantissa : Nat
  exponent : Int
  deriving DecidableEq

namespace Binary64

/-! ## §1. Rounding -/

/-- `num / den` rounded to the nearest integer, halves to the even neighbour. -/
def roundDiv (num den : Nat) : Nat :=
  let q := num / den
  let twice := 2 * (num % den)
  if den < twice ∨ (twice = den ∧ q % 2 = 1) then q + 1 else q

/-- `num / den / 2 ^ shift` as a fraction of natural numbers. -/
def scale (num den : Nat) (shift : Int) : Nat × Nat :=
  if 0 ≤ shift then (num, den <<< shift.toNat) else (num <<< (-shift).toNat, den)

/-- The exponent of the last place of `num / den`. -/
def lastPlace (num den : Nat) : Int :=
  let e : Int := (Nat.log2 num : Int) - (Nat.log2 den : Int)
  -- The logarithm of the quotient is `e` or one less.
  let (n, d) := scale num den (e - 52)
  max (if n / d < Nat.pow 2 52 then e - 53 else e - 52) (-1074)

/-- The number nearest to `num / den`, none if that is beyond all numbers. -/
def ofRatio (negative : Bool) (num den : Nat) : Option Binary64 :=
  if num = 0 then some ⟨negative, 0, 0⟩
  else
    let place := lastPlace num den
    let (n, d) := scale num den place
    let m := roundDiv n d
    -- Rounding up can reach a power of two, whose last place is the next one.
    let (m, place) := if m = Nat.pow 2 53 then (Nat.pow 2 52, place + 1) else (m, place)
    if 971 < place then none else some ⟨negative, m, place⟩

/-- The magnitude as a fraction. -/
def ratio (x : Binary64) : Nat × Nat :=
  scale x.mantissa 1 (-x.exponent)

/-- `10 ^ k` rounded. -/
def powerOfTen (k : Nat) : Nat × Nat :=
  match ofRatio false (Nat.pow 10 k) 1 with
  | some x => x.ratio
  | none => (Nat.pow 10 k, 1)

/-- Divide by `10 ^ k`, in steps of at most 308 places. -/
def divPower (x : Binary64) (k : Nat) : Binary64 :=
  if h : k ≤ 308 then (quotient x k).getD x
  else if x.mantissa = 0 then x
  else divPower ((quotient x 308).getD x) (k - 308)
termination_by k
decreasing_by omega
where
  quotient (x : Binary64) (k : Nat) : Option Binary64 :=
    let (n, d) := x.ratio
    let (pn, pd) := powerOfTen k
    ofRatio x.negative (n * pd) (d * pn)

/-- The number written as `significand` with the point moved by `exponent` places; none if it is
too big. -/
def ofDecimal (negative : Bool) (significand : Nat) (exponent : Int) : Option Binary64 :=
  match ofRatio negative significand 1 with
  | none => none
  | some x =>
    if exponent < 0 then some (divPower x (-exponent).toNat)
    else if x.mantissa = 0 then some x
    else if 308 < exponent then none
    else
      let (n, d) := x.ratio
      let (pn, pd) := powerOfTen exponent.toNat
      ofRatio negative (n * pn) (d * pd)

/-! ## §2. The shortest decimal -/

/-- The reals that round to a number, as two fractions with the common denominator. -/
structure Neighbourhood where
  low : Nat
  value : Nat
  high : Nat
  den : Nat
  closed : Bool

/-- Half way to either neighbour. Below a power of two the lower neighbour is twice as near. -/
def neighbourhood (x : Binary64) : Neighbourhood :=
  let quarter := x.exponent - 2
  let near := x.mantissa = Nat.pow 2 52 ∧ -1074 < x.exponent
  let up := fun n => (scale n 1 (-quarter)).1
  { low := up (4 * x.mantissa - (if near then 1 else 2)), value := up (4 * x.mantissa),
    high := up (4 * x.mantissa + 2), den := (scale 1 1 (-quarter)).2,
    closed := x.mantissa % 2 = 0 }

/-- Whether `n * 10 ^ k` rounds to the number. -/
def Neighbourhood.contains (h : Neighbourhood) (n : Nat) (k : Int) : Bool :=
  let (num, den) := if 0 ≤ k then (n * Nat.pow 10 k.toNat, 1) else (n, Nat.pow 10 (-k).toNat)
  let v := num * h.den
  if h.closed then h.low * den ≤ v && v ≤ h.high * den else h.low * den < v && v < h.high * den

/-- The multiple of `10 ^ k` that rounds to the number, the nearer one if there are two. -/
def Neighbourhood.onGrid (h : Neighbourhood) (k : Int) : Option Nat :=
  let (num, den) :=
    if 0 ≤ k then (h.value, h.den * Nat.pow 10 k.toNat)
    else (h.value * Nat.pow 10 (-k).toNat, h.den)
  let below := num / den
  let nearest := roundDiv num den
  let other := if nearest = below then below + 1 else below
  if h.contains nearest k then some nearest
  else if h.contains other k then some other
  else none

/-- Try ever finer grids. -/
def Neighbourhood.search (h : Neighbourhood) : (grids : Nat) → (k : Int) → Nat × Int
  | 0, k => (h.value / h.den, k)
  | grids + 1, k =>
    match h.onGrid k with
    | some n => (n, k)
    | none => h.search grids (k - 1)

/-- The number as `n * 10 ^ k` with as few digits as possible. -/
def shortest (x : Binary64) : Nat × Int :=
  let (n, d) := x.ratio
  let magnitude : Int := ((Radix.digits 10 (n / d)).length : Int) -
    ((Radix.digits 10 (d / n)).length : Int)
  -- Seventeen digits always do; the other grids are for what the magnitude may be off.
  x.neighbourhood.search 20 (magnitude + 1)

/-! ## §3. Text -/

def digitText (ds : List Nat) : String :=
  String.ofList (ds.map Nat.digitChar)

def zeros (n : Nat) : String :=
  String.ofList (List.replicate n '0')

/-- The text of a number: positional while the point stands within sixteen digits or up to four
zeros follow it, otherwise with an exponent, which always has a sign. -/
def render (x : Binary64) : String :=
  let sign := if x.negative then "-" else ""
  if x.mantissa = 0 then sign ++ "0.0"
  else
    let (n, k) := x.shortest
    let ds := Radix.digits 10 n
    let point : Int := (ds.length : Int) + k
    sign ++
      if 0 ≤ k ∧ point ≤ 16 then digitText ds ++ zeros k.toNat ++ ".0"
      else if 0 < point ∧ point ≤ 16 then
        digitText (ds.take point.toNat) ++ "." ++ digitText (ds.drop point.toNat)
      else if -5 < point ∧ point ≤ 0 then "0." ++ zeros (-point).toNat ++ digitText ds
      else
        let fraction := if ds.length = 1 then "" else "." ++ digitText (ds.drop 1)
        let plus := if 0 < point then "+" else ""
        digitText (ds.take 1) ++ fraction ++ "e" ++ plus ++ toString (point - 1)

end Binary64

end Wallet.Json
