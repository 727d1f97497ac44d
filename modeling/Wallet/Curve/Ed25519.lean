import Wallet.Curve.Edwards
import Wallet.Hash.Sha2

/-!
# Ed25519

The secret is a seed of 32 bytes. Its SHA-512 digest gives the secret scalar and the part that
makes nonces, so signing is a function of seed and message.

Verification recomputes the first half of the signature and compares bytes; it does not multiply
by the cofactor. The second half must be a reduced scalar.
-/

namespace Wallet.Curve.Ed25519

open Wallet.Modular Edwards

/-- The scalar that a digest of 64 bytes stands for. -/
def scalarOf (digest : Octets 64) : Nat :=
  Bytes.toNatLittle digest.list % order

/-- The secret scalar of a seed: the lower half of its digest with the lowest three bits and the
highest bit cleared and the second highest set. -/
def secretScalar (seed : Octets 32) : Nat :=
  let n := Bytes.toNatLittle ((Hash.sha512 seed.list).list.take 32)
  Nat.pow 2 254 + n % Nat.pow 2 254 / 8 * 8

/-- The public key of a seed. -/
def publicKey (seed : Octets 32) : Octets 32 :=
  encode (Point.mul (secretScalar seed) base)

/-- The scalar that ties a signature to its key and message. -/
def challenge (nonce key : Octets 32) (message : Bytes) : Nat :=
  scalarOf (Hash.sha512 (nonce.list ++ key.list ++ message))

/-- Sign a message. -/
def sign (seed : Octets 32) (message : Bytes) : Octets 64 :=
  let inner := (Hash.sha512 seed.list).list.drop 32
  let r := scalarOf (Hash.sha512 (inner ++ message))
  let nonce := encode (Point.mul r base)
  let k := challenge nonce (publicKey seed) message
  let s := (r + k * secretScalar seed) % order
  nonce.append ⟨littleEndian 32 s, length_littleEndian _ _⟩

/-- Verify a signature under a public key. -/
def verify (key : Octets 32) (message : Bytes) (signature : Octets 64) : Bool :=
  match decode key, Octets.ofList? 32 (signature.list.take 32) with
  | some point, some nonce =>
    let s := Bytes.toNatLittle (signature.list.drop 32)
    if s < order then
      let k := challenge nonce key message
      -- The nonce is compared in its wire form, so one that was not reduced is refused.
      encode (Point.add (Point.mul s base) (Point.mul k point.neg)) == nonce
    else false
  | _, _ => false

end Wallet.Curve.Ed25519
