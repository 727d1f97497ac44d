import Wallet.Key.Signature
import Wallet.Curve.Ecdsa
import Wallet.Curve.Ed25519

/-!
# Public keys

A public key is tagged with its scheme and has the length that the scheme demands. Reading one
from outside also checks that it encodes a point; `isPoint` is that check.
-/

namespace Wallet

/-- A public key. -/
structure PublicKey where
  keyType : KeyType
  bytes : Bytes
  length_eq : bytes.length = keyType.publicKeyLength
  deriving DecidableEq

namespace PublicKey

/-- Whether bytes encode a point for a scheme. -/
def isPoint (keyType : KeyType) (bytes : Bytes) : Bool :=
  match keyType with
  | .ed25519 => ((Octets.ofList? 32 bytes).bind Curve.Edwards.decode).isSome
  | .secp256k1 => (Curve.Weierstrass.decode .secp256k1 bytes).isSome
  | .secp256r1 => (Curve.Weierstrass.decode .secp256r1 bytes).isSome

/-- Read a public key from its bytes. -/
def ofBytes (keyType : KeyType) (bytes : Bytes) : Except KeyError PublicKey :=
  if h : bytes.length = keyType.publicKeyLength then
    if isPoint keyType bytes then .ok ⟨keyType, bytes, h⟩ else .error (.invalidPublicKey keyType)
  else .error (.invalidPublicKey keyType)

/-- Read a public key from its text. -/
def ofBase58 (keyType : KeyType) (text : String) : Except KeyError PublicKey := do
  ofBytes keyType (← KeyError.decodeBase58 text)

def toBase58 (k : PublicKey) : String :=
  Base58.encode k.bytes

def describe (k : PublicKey) : String :=
  s!"PublicKey({k.keyType.name}, {k.toBase58})"

/-- Verify an ECDSA signature under the bytes of a key. -/
def verifyEcdsa (curve : Curve.Weierstrass) (key message : Bytes) (signature : Signature) : Bool :=
  match Curve.Weierstrass.decode curve key with
  | some point => Curve.Ecdsa.verify point message signature.octets
  | none => false

/-- Verify a signature. Whatever is wrong with it, the answer is `false`. -/
def verify (k : PublicKey) (message : Bytes) (signature : Signature) : Bool :=
  match k.keyType with
  | .ed25519 =>
    match Octets.ofList? 32 k.bytes with
    | some key => Curve.Ed25519.verify key message signature.octets
    | none => false
  | .secp256k1 => verifyEcdsa .secp256k1 k.bytes message signature
  | .secp256r1 => verifyEcdsa .secp256r1 k.bytes message signature

end PublicKey

/-- Why a batch of signatures was refused. -/
inductive SignatureError where
  | verificationFailed
  deriving DecidableEq

def SignatureError.message : SignatureError → String
  | .verificationFailed => "signature verification failed"

/-- Verify several signatures, each under its own key and over its own message. -/
def verifyAll (items : List (PublicKey × Bytes × Signature)) : Except SignatureError Unit :=
  if items.all fun (key, message, signature) => key.verify message signature then .ok ()
  else .error .verificationFailed

end Wallet
