import Wallet.Key.Public
import Wallet.Key.Stream

/-!
# Key pairs

A key pair is its secret; the public half is computed. Ed25519 keeps a seed of 32 bytes, the ECDSA
schemes keep a scalar between one and the order of the curve.

Secrets come from three places: a seed of 32 bytes (`ofSeed`), exported bytes (`ofSecretBytes`) or
their base58 text. For the ECDSA schemes a seed does not name a scalar directly. It starts a stream
of candidates (`SeedStream`), and the first candidate that is a scalar is taken.
-/

namespace Wallet

open Curve (Weierstrass)

/-- A secret scalar of a curve. -/
structure SecretScalar (c : Weierstrass) where
  value : Nat
  positive : 0 < value
  below : value < c.order
  deriving DecidableEq

/-- A key pair, given by its secret. -/
inductive KeyPair where
  | ed25519 (seed : Octets 32)
  | secp256k1 (scalar : SecretScalar .secp256k1)
  | secp256r1 (scalar : SecretScalar .secp256r1)

namespace SecretScalar

variable {c : Weierstrass}

/-- Read a number as a secret scalar. -/
def ofNat? (c : Weierstrass) (n : Nat) : Option (SecretScalar c) :=
  if h : 0 < n ∧ n < c.order then some ⟨n, h.1, h.2⟩ else none

/-- The bytes of a scalar may leave out up to eight leading zeros. -/
def ofBytes? (c : Weierstrass) (bytes : Bytes) : Option (SecretScalar c) :=
  if 24 ≤ bytes.length ∧ bytes.length ≤ 32 then ofNat? c (Bytes.toNat bytes) else none

def toBytes (s : SecretScalar c) : Bytes :=
  bigEndian 32 s.value

def publicBytes (s : SecretScalar c) : Octets 64 :=
  Weierstrass.encode (Curve.Ecdsa.publicPoint c s.value)

def sign (s : SecretScalar c) (message : Bytes) : Signature :=
  ⟨Curve.Ecdsa.sign c s.value message⟩

end SecretScalar

/-! ## §1. From a seed -/

/-- The scalar of a seed: the first number from its stream that is a scalar. -/
def SecretScalar.ofSeed? (c : Weierstrass) (seed : Octets 32) : Option (SecretScalar c) :=
  (SeedStream.start seed).sample fun candidate => ofBytes? c candidate.list

namespace KeyPair

/-- The key pair of a seed, unless the stream of the seed ends before there is a scalar. -/
def ofSeed? (keyType : KeyType) (seed : Octets 32) : Option KeyPair :=
  match keyType with
  | .ed25519 => some (.ed25519 seed)
  | .secp256k1 => (SecretScalar.ofSeed? _ seed).map .secp256k1
  | .secp256r1 => (SecretScalar.ofSeed? _ seed).map .secp256r1

/-- The key pair of a seed. In case its stream ends before there is a scalar, the scalar is one. -/
def ofSeed (keyType : KeyType) (seed : Octets 32) : KeyPair :=
  (ofSeed? keyType seed).getD <|
    match keyType with
    | .ed25519 => .ed25519 seed
    | .secp256k1 => .secp256k1 ⟨1, by decide, by decide⟩
    | .secp256r1 => .secp256r1 ⟨1, by decide, by decide⟩

/-! ## §2. The public half -/

def keyType : KeyPair → KeyType
  | .ed25519 _ => .ed25519
  | .secp256k1 _ => .secp256k1
  | .secp256r1 _ => .secp256r1

/-- The public half. -/
def publicKey : KeyPair → PublicKey
  | .ed25519 seed =>
    let key := Curve.Ed25519.publicKey seed
    ⟨.ed25519, key.list, key.length_eq⟩
  | .secp256k1 scalar => ⟨.secp256k1, scalar.publicBytes.list, scalar.publicBytes.length_eq⟩
  | .secp256r1 scalar => ⟨.secp256r1, scalar.publicBytes.list, scalar.publicBytes.length_eq⟩

/-- Two key pairs count as equal if their public halves are. -/
instance : BEq KeyPair where
  beq p q := p.publicKey == q.publicKey

/-- Sign a message. Under every scheme this is a function of secret and message. -/
def sign (k : KeyPair) (message : Bytes) : Signature :=
  match k with
  | .ed25519 seed => ⟨Curve.Ed25519.sign seed message⟩
  | .secp256k1 scalar => scalar.sign message
  | .secp256r1 scalar => scalar.sign message

def describe (k : KeyPair) : String :=
  s!"KeyPair({k.keyType.name}, pub={k.publicKey.toBase58})"

/-! ## §3. Export and import -/

/-- The secret as bytes: seed and public key for Ed25519, the scalar otherwise. -/
def secretBytes : KeyPair → Bytes
  | .ed25519 seed => seed.list ++ (Curve.Ed25519.publicKey seed).list
  | .secp256k1 scalar => scalar.toBytes
  | .secp256r1 scalar => scalar.toBytes

def secretBase58 (k : KeyPair) : String :=
  Base58.encode k.secretBytes

/-- Read an Ed25519 secret: the seed alone, or followed by the public key that belongs to it. -/
def ofEd25519Bytes (bytes : Bytes) : Except KeyError KeyPair :=
  match Octets.ofList? 32 (bytes.take 32) with
  | some seed =>
    if bytes.length = 32 then .ok (.ed25519 seed)
    else if bytes.length = 64 then
      if bytes.drop 32 = (Curve.Ed25519.publicKey seed).list then .ok (.ed25519 seed)
      else .error .keypairMismatch
    else .error .invalidSecretKey
  | none => .error .invalidSecretKey

/-- Read a secret from its bytes. -/
def ofSecretBytes (keyType : KeyType) (bytes : Bytes) : Except KeyError KeyPair :=
  match keyType with
  | .ed25519 => ofEd25519Bytes bytes
  | .secp256k1 =>
    match SecretScalar.ofBytes? _ bytes with
    | some scalar => .ok (.secp256k1 scalar)
    | none => .error .invalidSecretKey
  | .secp256r1 =>
    match SecretScalar.ofBytes? _ bytes with
    | some scalar => .ok (.secp256r1 scalar)
    | none => .error .invalidSecretKey

/-- Read a secret from its text. -/
def ofSecretBase58 (keyType : KeyType) (text : String) : Except KeyError KeyPair := do
  ofSecretBytes keyType (← KeyError.decodeBase58 text)

end KeyPair

end Wallet
