import Wallet.Curve.Weierstrass
import Wallet.Hash.Chain
import Wallet.Search

/-!
# ECDSA over SHA-256

A signature is the pair `r ‖ s` of two scalars of 32 bytes. Nonces are not random: they are drawn
from a keyed hash of the secret and the message (RFC 6979), so that signing is a function.

Each curve says whether `s` has to lie in the lower half of the scalars (`Weierstrass.lowS`).
Where it has to, signing picks the lower of `s` and `-s`, and verification refuses the upper.
-/

namespace Wallet.Curve.Ecdsa

open Wallet.Modular Weierstrass

/-! ## §1. Nonces -/

/-- The keyed generator of nonces. -/
structure Generator where
  key : Octets 32
  value : Octets 32

/-- Replace the key and then the value. -/
def Generator.update (g : Generator) (input : Bytes) : Generator :=
  let key := Hash.hmac256 g.key.list (g.value.list ++ input)
  ⟨key, Hash.hmac256 key.list g.value.list⟩

/-- Draw the next value. -/
def Generator.draw (g : Generator) : Generator :=
  { g with value := Hash.hmac256 g.key.list g.value.list }

/-- The generator for one secret and one message digest. -/
def Generator.start (secret digest : Octets 32) : Generator :=
  let zero : Generator := ⟨⟨List.replicate 32 0, rfl⟩, ⟨List.replicate 32 1, rfl⟩⟩
  (zero.update (0 :: (secret.list ++ digest.list))).update (1 :: (secret.list ++ digest.list))

/-- Read a number as a scalar that is not zero. -/
def nonzeroScalar? (c : Weierstrass) (n : Nat) : Option Nat :=
  if 0 < n ∧ n < c.order then some n else none

/-- The nonce: the first drawn value that is a scalar other than zero. -/
def nonce (c : Weierstrass) (secret digest : Nat) : Nat :=
  let g := Generator.start (Octets.ofNat 32 secret) (Octets.ofNat 32 digest)
  (Search.first (fun g => (g.update [0]).draw) (fun g => nonzeroScalar? c g.value.toNat)
    Search.drawLimit g.draw).getD 1

/-! ## §2. Signing and verifying -/

/-- The digest of a message as a scalar. -/
def messageScalar (c : Weierstrass) (message : Bytes) : c.Scalar :=
  residue _ (Hash.sha256 message).toNat

/-- The `x` coordinate of a point as a scalar. -/
def scalarOfPoint {c : Weierstrass} (p : c.Point) : c.Scalar :=
  match p.toAffine with
  | some (x, _) => residue _ x
  | none => residue _ 0

/-- Whether a scalar lies in the upper half. -/
def isHigh (c : Weierstrass) (s : Nat) : Bool :=
  c.order / 2 < s

/-- Sign a message with a secret scalar. -/
def sign (c : Weierstrass) (secret : Nat) (message : Bytes) : Octets 64 :=
  let z := messageScalar c message
  let k := nonce c secret z
  let r := scalarOfPoint (Point.mul k c.base)
  let s : c.Scalar := inverse (residue c.order k) * (z + r * residue c.order secret)
  -- `r` goes with `-s` as well as with `s`, so the lower one can be taken.
  let s : c.Scalar := if c.lowS && isHigh c s then residue c.order 0 - s else s
  (Octets.ofNat 32 r).append (Octets.ofNat 32 s)

/-- Verify a signature under a public point. -/
def verify {c : Weierstrass} (key : c.Point) (message : Bytes) (signature : Octets 64) : Bool :=
  match nonzeroScalar? c (Bytes.toNat (signature.list.take 32)),
      nonzeroScalar? c (Bytes.toNat (signature.list.drop 32)) with
  | some r, some s =>
    if c.lowS && isHigh c s then false
    else
      let i : c.Scalar := inverse (residue c.order s)
      let u := messageScalar c message * i
      let v := residue c.order r * i
      -- This is the point of the nonce if the signature was made with the secret of the key.
      let p := Point.add (Point.mul u c.base) (Point.mul v key)
      match p.toAffine with
      | some (x, _) => residue c.order x == residue c.order r
      | none => false
  | _, _ => false

/-- The public point of a secret scalar. -/
def publicPoint (c : Weierstrass) (secret : Nat) : c.Point :=
  Point.mul secret c.base

end Wallet.Curve.Ecdsa
