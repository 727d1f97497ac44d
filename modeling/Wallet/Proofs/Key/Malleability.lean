import Wallet.Proofs.Curve.Ecdsa
import Wallet.Proofs.Key.Secret

/-!
# Signatures that can be changed

Anyone can negate the second half of an ECDSA signature, without knowing the key. Signatures are
documented to be such that nothing comes of it: the second half lies in the lower half of the
scalars, and a signature where it does not is refused. On secp256k1 it is so, for every key and
message. On secp256r1 signing leaves the second half as it comes out, and verification takes both:
every signature is as good as its twin (`verify_twin`), so that whoever sees one has two of them.
-/

namespace Wallet

open Curve Curve.Ecdsa Curve.Weierstrass

namespace Signature

def first (s : Signature) : Nat :=
  firstHalf s.octets

def second (s : Signature) : Nat :=
  secondHalf s.octets

/-- The signature with its second half negated. -/
def twin (c : Weierstrass) (s : Signature) : Signature :=
  ⟨Ecdsa.twin c s.octets⟩

theorem first_twin (c : Weierstrass) (s : Signature) : (s.twin c).first = s.first :=
  firstHalf_twin _

theorem second_twin (c : Weierstrass) [Sound c] (s : Signature) :
    (s.twin c).second = c.order - s.second :=
  secondHalf_twin _

/-- What is documented of a signature: it is low, and its twin is refused. -/
structure Unmalleable (c : Weierstrass) (verify : Signature → Bool) (s : Signature) : Prop where
  low : s.second ≤ c.order / 2
  refused : verify (s.twin c) = false

end Signature

/-! ## §1. Secret scalars -/

namespace SecretScalar

variable {c : Weierstrass} [Sound c] (s : SecretScalar c) {message : Bytes}

/-- Verify under the public half. -/
def verify (s : SecretScalar c) (message : Bytes) (signature : Signature) : Bool :=
  PublicKey.verifyEcdsa c s.publicBytes.list message signature

/-- The public half is read back as the multiple of the base point by the secret. -/
theorem decode_publicBytes :
    ∃ point, decode c s.publicBytes.list = some point ∧ Stands point (multiple c s.value) := by
  -- The secret lies below the order, so the point is not the one at infinity.
  apply (stands_mul_base s.value).decode_encode
  intro hzero
  have hdvd : c.order ∣ s.value :=
    (ZMod.natCast_eq_zero_iff _ _).mp (multiple_eq_zero_iff.mp hzero)
  exact absurd (Nat.le_of_dvd s.positive hdvd) (Nat.not_le_of_lt s.below)

/-- What verification asks, in terms of the secret. -/
theorem verify_iff {signature : Signature} :
    s.verify message signature = true ↔
      ¬ (c.lowS = true ∧ c.order / 2 < signature.second) ∧
        Fits c s.value message signature.first signature.second := by
  obtain ⟨point, hdecode, hstands⟩ := s.decode_publicBytes
  rw [verify, PublicKey.verifyEcdsa, hdecode]
  exact verify_eq_true_iff hstands

theorem second_le_of_verify (hlow : c.lowS = true) {signature : Signature}
    (hverify : s.verify message signature = true) : signature.second ≤ c.order / 2 := by
  by_contra hhigh
  exact (s.verify_iff.mp hverify).1 ⟨hlow, by omega⟩

/-- Where low signatures are not asked for, a signature is as good as its twin. -/
theorem verify_twin (hlow : c.lowS = false) (signature : Signature) :
    s.verify message (signature.twin c) = s.verify message signature := by
  rw [Bool.eq_iff_iff, s.verify_iff, s.verify_iff, hlow]
  rw [Signature.first_twin, Signature.second_twin, fits_neg_iff]
  simp

theorem second_sign_le (hlow : c.lowS = true) : (s.sign message).second ≤ c.order / 2 := by
  have hsecond : (s.sign message).second = lower c (secondScalar c s.value message) :=
    secondHalf_sign _ _
  rw [hsecond]
  exact lower_le hlow _

/-- A signature verifies under its own key, unless one of its halves is zero. -/
theorem verify_sign_iff :
    s.verify message (s.sign message) = true ↔
      (s.sign message).first ≠ 0 ∧ (s.sign message).second ≠ 0 := by
  rw [verify_iff]
  constructor
  · rintro ⟨-, hfits⟩
    exact ⟨hfits.first.1.ne', hfits.second.1.ne'⟩
  · rintro ⟨hfirst, hsecond⟩
    refine ⟨?_, fits_sign hfirst hsecond⟩
    rintro ⟨hlow, hhigh⟩
    have hle : (s.sign message).second ≤ c.order / 2 := s.second_sign_le hlow
    exact Nat.not_le_of_lt hhigh hle

/-- Where low signatures are asked for, they are as documented. -/
theorem unmalleable_of_lowS (hlow : c.lowS = true) :
    (s.sign message).Unmalleable c (s.verify message) where
  low := s.second_sign_le hlow
  refused := by
    -- The order is odd, so not both a scalar and its opposite are in the lower half.
    have hopposite : ∀ n, n ≤ c.order / 2 → ¬ c.order - n ≤ c.order / 2 := by
      have hodd : c.order % 2 = 1 := Sound.order_prime.mod_two_eq_one_iff_ne_two.mpr
        (Nat.ne_of_gt Sound.two_lt_order)
      omega
    by_contra htwin
    have hle := s.second_le_of_verify hlow (Bool.eq_true_of_not_eq_false htwin)
    rw [Signature.second_twin] at hle
    exact hopposite _ (s.second_sign_le hlow) hle

/-- Elsewhere it holds only of signatures that do not even verify. -/
theorem unmalleable_iff (hlow : c.lowS = false) :
    (s.sign message).Unmalleable c (s.verify message) ↔
      (s.sign message).second = 0 ∨
        (s.sign message).first = 0 ∧ (s.sign message).second ≤ c.order / 2 := by
  -- The twin is refused if the signature is, and that happens for a half that is zero.
  have hrefused : s.verify message ((s.sign message).twin c) = false ↔
      (s.sign message).first = 0 ∨ (s.sign message).second = 0 := by
    rw [s.verify_twin hlow, ← Bool.not_eq_true, s.verify_sign_iff, not_and_or, not_ne_iff,
      not_ne_iff]
  constructor
  · rintro ⟨hle, htwin⟩
    rcases hrefused.mp htwin with hfirst | hsecond
    · exact .inr ⟨hfirst, hle⟩
    · exact .inl hsecond
  · rintro (hsecond | ⟨hfirst, hle⟩)
    · exact ⟨by omega, hrefused.mpr (.inr hsecond)⟩
    · exact ⟨hle, hrefused.mpr (.inl hfirst)⟩

end SecretScalar

/-! ## §2. Key pairs -/

namespace KeyPair

/-- The documented property of the signature of a message. It is about ECDSA. -/
def Unmalleable (pair : KeyPair) (message : Bytes) : Prop :=
  ∀ c, pair.keyType.curve? = some c →
    (pair.sign message).Unmalleable c (pair.publicKey.verify message)

/-- Whether the signature of a message can be changed without the key. -/
structure Malleability (pair : KeyPair) (message : Bytes) : Prop where
  /-- The signature is as documented, except on secp256r1. There it takes a half that is zero. -/
  documented : pair.Unmalleable message ↔ pair.keyType ≠ .secp256r1 ∨
    (pair.sign message).second = 0 ∨
      (pair.sign message).first = 0 ∧ (pair.sign message).second ≤ Weierstrass.secp256r1.order / 2
  /-- On both curves the signature verifies, unless one of its halves is zero. -/
  verified : pair.keyType.curve?.isSome = true →
    (pair.publicKey.verify message (pair.sign message) = true ↔
      (pair.sign message).first ≠ 0 ∧ (pair.sign message).second ≠ 0)
  /-- On secp256k1 no high signature verifies, whoever made it. -/
  low : pair.keyType = .secp256k1 → ∀ signature,
    pair.publicKey.verify message signature = true →
      signature.second ≤ Weierstrass.secp256k1.order / 2
  /-- On secp256r1 a signature is as good as its twin, whoever made it. -/
  twin : pair.keyType = .secp256r1 → ∀ signature,
    pair.publicKey.verify message (signature.twin .secp256r1) =
      pair.publicKey.verify message signature

/-- **On secp256k1 signatures cannot be changed, on secp256r1 they can.** -/
theorem malleability (pair : KeyPair) (message : Bytes) : Malleability pair message := by
  cases pair with
  | ed25519 seed =>
    exact ⟨iff_of_true nofun (.inl nofun), nofun, nofun, nofun⟩
  | secp256k1 s =>
    refine ⟨iff_of_true ?_ (.inl nofun), fun _ => s.verify_sign_iff,
      fun _ signature => s.second_le_of_verify rfl, nofun⟩
    rintro c ⟨⟩
    exact s.unmalleable_of_lowS rfl
  | secp256r1 s =>
    refine ⟨?_, fun _ => s.verify_sign_iff, nofun, fun _ => s.verify_twin rfl⟩
    have hcurve : (KeyPair.secp256r1 s).Unmalleable message ↔
        (s.sign message).Unmalleable .secp256r1 (s.verify message) := by
      constructor
      · exact fun hall => hall _ rfl
      · rintro hone c ⟨⟩
        exact hone
    rw [hcurve, s.unmalleable_iff rfl]
    exact (or_iff_right fun hne => hne rfl).symm

set_option maxRecDepth 10000 in
/-- The secret one signs the message of a zero byte with a high second half. -/
theorem sign_one : Ecdsa.sign .secp256r1 1 [0] =
    (Octets.ofNat 32 0x8fcf31b6333820774f06492ff74fe4b8f8bf4717931cff311878f4abe452045d).append
      (Octets.ofNat 32 0xd054e4b2afa095171f2d4a945dbd0e3154fa7181854ed4a3623263c28a17941e) := by
  decide +kernel

/-- That signature is high, and it verifies as well as its twin. -/
theorem exists_malleable : ∃ (pair : KeyPair) (message : Bytes),
    pair.keyType = .secp256r1 ∧
      Weierstrass.secp256r1.order / 2 < (pair.sign message).second ∧
      pair.publicKey.verify message (pair.sign message) = true ∧
      pair.publicKey.verify message ((pair.sign message).twin .secp256r1) = true ∧
      ¬ pair.Unmalleable message := by
  let one : SecretScalar .secp256r1 := ⟨1, by decide, by decide⟩
  have hfirst : (one.sign [0]).first ≠ 0 := by
    show firstHalf (Ecdsa.sign .secp256r1 1 [0]) ≠ 0
    rw [sign_one, firstHalf_append (by decide)]
    decide
  have hhigh : Weierstrass.secp256r1.order / 2 < (one.sign [0]).second := by
    show Weierstrass.secp256r1.order / 2 < secondHalf (Ecdsa.sign .secp256r1 1 [0])
    rw [sign_one, secondHalf_append (by decide)]
    decide
  have hverify : one.verify [0] (one.sign [0]) = true :=
    one.verify_sign_iff.mpr ⟨hfirst, Nat.ne_zero_of_lt hhigh⟩
  refine ⟨.secp256r1 one, [0], rfl, hhigh, hverify, ?_, fun hall => ?_⟩
  · exact (one.verify_twin rfl _).trans hverify
  · exact Nat.not_le_of_lt hhigh (hall _ rfl).low

end KeyPair

end Wallet
