import Mathlib.Tactic.NormNum.Prime
import Wallet.Curve.Weierstrass
import Wallet.Proofs.Curve.Modular

/-!
# The primes of the two curves

Coordinates and scalars are divided by means of Fermat's theorem, so both need a prime modulus.
Four primes of 256 bits are too large to be found prime by trial. They are certified by
Pocklington's criterion (`prime_of_pocklington`): it is enough to know some prime factors of
`m - 1` whose product exceeds the root of `m`, and those are certified in the same way, down to
primes that can be tried.

A certificate is data, and checking it (`Certificate.check`) is a computation by the `power` of
the library.
-/

namespace Wallet

namespace Modular

/-! ## §1. The criterion -/

/-- Pocklington's criterion. Below the root of `m` there is no room for a prime factor of `m`, since
every one of `primes` has to divide that factor less one. -/
theorem prime_of_pocklington {m : Nat} (hm : 2 ≤ m) (base : ZMod m) {primes : List Nat}
    (hprimes : ∀ q ∈ primes, q.Prime) (hnodup : primes.Nodup) (hlarge : m < primes.prod ^ 2)
    (hdvd : ∀ q ∈ primes, q ∣ m - 1) (hfull : base ^ (m - 1) = 1)
    (hpart : ∀ q ∈ primes, IsUnit (base ^ ((m - 1) / q) - 1)) : m.Prime := by
  by_contra hcomposite
  have hfactor : m.minFac.Prime := Nat.minFac_prime (by omega)
  have : Fact m.minFac.Prime := ⟨hfactor⟩
  let toFactor : ZMod m →+* ZMod m.minFac := ZMod.castHom (Nat.minFac_dvd m) _
  have hdvdFactor : ∀ q ∈ primes, q ∣ m.minFac - 1 := by
    intro q hq
    have : Fact q.Prime := ⟨hprimes q hq⟩
    -- Modulo the factor, this power of the base has order `q`.
    let root : ZMod m.minFac := toFactor (base ^ ((m - 1) / q))
    have hroot : root ^ q = 1 := by
      rw [← map_pow, ← pow_mul, Nat.div_mul_cancel (hdvd q hq), hfull, map_one]
    have hone : root ≠ 1 := by
      have hunit := (hpart q hq).map toFactor
      rw [map_sub, map_one] at hunit
      exact sub_ne_zero.mp hunit.ne_zero
    have hzero : root ≠ 0 := by
      intro hroot0
      rw [hroot0, zero_pow (hprimes q hq).ne_zero] at hroot
      exact zero_ne_one hroot
    rw [← orderOf_eq_prime hroot hone]
    exact ZMod.orderOf_dvd_card_sub_one hzero
  have hprod : primes.prod ∣ m.minFac - 1 := by
    have hfinset := Finset.prod_primes_dvd (m.minFac - 1)
      (fun q (hq : q ∈ primes.toFinset) => (hprimes q (List.mem_toFinset.mp hq)).prime)
      (fun q hq => hdvdFactor q (List.mem_toFinset.mp hq))
    rwa [List.prod_toFinset _ hnodup, List.map_id'] at hfinset
  -- All the primes divide the factor less one, and being different so does their product.
  have hsmall : primes.prod ≤ m.minFac := by
    have hle := Nat.le_of_dvd (Nat.sub_pos_of_lt hfactor.one_lt) hprod
    omega
  have hroot : m.minFac ^ 2 ≤ m := Nat.minFac_sq_le_self (by omega) hcomposite
  exact absurd (Nat.pow_le_pow_left hsmall 2) (by omega)

/-! ## §2. Certificates -/

/-- A claim that a number is prime: a base for the powers, and some primes that divide the number
less one. -/
structure Certificate where
  number : Nat
  base : Nat
  two_le : 2 ≤ number
  primes : List Nat

instance (c : Certificate) : Modulus c.number := ⟨Nat.lt_of_lt_of_le Nat.zero_lt_two c.two_le⟩

/-- The criterion as a test, given numbers that are known to be prime. -/
def Certificate.check (known : List Nat) (c : Certificate) : Bool :=
  let root (e : Nat) := power (residue c.number c.base) e
  decide c.primes.Nodup && decide (c.number < c.primes.prod ^ 2) &&
    root (c.number - 1) == residue _ 1 &&
    c.primes.all fun q => known.contains q && (c.number - 1) % q == 0 &&
      Nat.gcd (root ((c.number - 1) / q) - residue _ 1).val c.number == 1

theorem Certificate.prime_of_check {known : List Nat} {c : Certificate}
    (hknown : ∀ q ∈ known, q.Prime) (hcheck : c.check known = true) : c.number.Prime := by
  simp only [check, Bool.and_eq_true, decide_eq_true_eq, beq_iff_eq, List.all_eq_true,
    List.contains_iff_mem] at hcheck
  obtain ⟨⟨⟨hnodup, hlarge⟩, hfull⟩, hpart⟩ := hcheck
  apply prime_of_pocklington c.two_le (c.base : ZMod c.number) _ hnodup hlarge
  · intro q hq
    exact Nat.dvd_of_mod_eq_zero (hpart q hq).1.2
  · rw [eq_residue_iff, toZMod_power, toZMod_residue, Nat.cast_one] at hfull
    exact hfull
  · intro q hq
    have hunit := (ZMod.isUnit_iff_coprime _ _).mpr (hpart q hq).2
    change IsUnit (toZMod _) at hunit
    rwa [toZMod_sub, toZMod_power, toZMod_residue, toZMod_residue, Nat.cast_one] at hunit
  · intro q hq
    exact hknown q (hpart q hq).1.1

/-- Check certificates in turn, each of which may use what those before it have shown. -/
def checkAll (known : List Nat) : List Certificate → Bool
  | [] => true
  | c :: rest => c.check known && checkAll (c.number :: known) rest

theorem prime_of_checkAll {known : List Nat} {certificates : List Certificate}
    (hknown : ∀ q ∈ known, q.Prime) (hcheck : checkAll known certificates = true) :
    ∀ c ∈ certificates, c.number.Prime := by
  -- What a certificate has shown is known to those after it.
  induction certificates generalizing known with
  | nil => simp
  | cons c rest ih =>
    rw [checkAll, Bool.and_eq_true] at hcheck
    have hprime : c.number.Prime := Certificate.prime_of_check hknown hcheck.1
    have hmore : ∀ q ∈ c.number :: known, q.Prime := by
      simpa using ⟨hprime, hknown⟩
    simpa using ⟨hprime, ih hmore hcheck.2⟩

/-! ## §3. The primes -/

/-- Primes that can be tried. -/
def smallPrimes : List Nat :=
  [3, 7, 11, 29, 53, 173, 3677, 3769, 16699, 41201, 85831, 104471, 155317, 305873, 1206781, 1627771]

theorem prime_of_mem_smallPrimes : ∀ q ∈ smallPrimes, q.Prime := by
  norm_num [smallPrimes]

open Curve.Weierstrass in
/-- What leads from these to the moduli of the curves. -/
def certificates : List Certificate :=
  [⟨7240687, 2, by decide, [1206781]⟩,
  ⟨107590001, 2, by decide, [7, 29, 53]⟩,
  ⟨255515944373312847190720520512484175977, 2, by decide, [41201, 7240687, 107590001]⟩,
  ⟨205115282021455665897114700593932402728804164701536103180137503955397371, 2, by decide,
    [255515944373312847190720520512484175977]⟩,
  ⟨secp256k1.prime, 2, by decide,
    [205115282021455665897114700593932402728804164701536103180137503955397371]⟩,
  ⟨107361793816595537, 2, by decide, [16699, 85831]⟩,
  ⟨297159362677, 2, by decide, [1627771]⟩,
  ⟨29047611873442575647497758179, 2, by decide, [305873, 297159362677]⟩,
  ⟨341948486974166000522343609283189, 2, by decide, [29047611873442575647497758179]⟩,
  ⟨secp256k1.order, 2, by decide, [107361793816595537, 341948486974166000522343609283189]⟩,
  ⟨204061199, 3, by decide, [11, 3769]⟩,
  ⟨34282281433, 2, by decide, [204061199]⟩,
  ⟨66417393611, 2, by decide, [173, 3677]⟩,
  ⟨11290956913871, 2, by decide, [66417393611]⟩,
  ⟨774023187263532362759620327192479577272145303, 2, by decide, [34282281433, 11290956913871]⟩,
  ⟨835945042244614951780389953367877943453916927241, 2, by decide,
    [774023187263532362759620327192479577272145303]⟩,
  ⟨secp256r1.prime, 2, by decide, [835945042244614951780389953367877943453916927241]⟩,
  ⟨3969899, 2, by decide, [104471]⟩,
  ⟨1002328039319, 2, by decide, [3969899]⟩,
  ⟨191039911, 2, by decide, [155317]⟩,
  ⟨208150935158385979, 2, by decide, [3, 191039911]⟩,
  ⟨2624747550333869278416773953, 2, by decide, [208150935158385979]⟩,
  ⟨secp256r1.order, 2, by decide, [1002328039319, 2624747550333869278416773953]⟩]

set_option maxRecDepth 10000 in
theorem checkAll_certificates : checkAll smallPrimes certificates = true := by
  decide

theorem prime_of_mem_certificates {p : Nat} (hp : p ∈ certificates.map Certificate.number) :
    p.Prime := by
  obtain ⟨c, hc, rfl⟩ := List.mem_map.mp hp
  exact prime_of_checkAll prime_of_mem_smallPrimes checkAll_certificates c hc

end Modular

/-- Both curves have a field, and scalars that form a field. -/
theorem Curve.Weierstrass.prime_moduli :
    ∀ c ∈ [secp256k1, secp256r1], c.prime.Prime ∧ c.order.Prime := by
  have hprime {p : Nat} := Modular.prime_of_mem_certificates (p := p)
  intro c hc
  simp only [List.mem_cons, List.not_mem_nil, or_false] at hc
  rcases hc with rfl | rfl
  · exact ⟨hprime (by simp [Modular.certificates]), hprime (by simp [Modular.certificates])⟩
  · exact ⟨hprime (by simp [Modular.certificates]), hprime (by simp [Modular.certificates])⟩

end Wallet
