import Wallet.Text.DecodeError
import Wallet.Curve.Weierstrass

/-!
# Signature schemes

The three schemes an account can use, and what can be wrong with key material. An error says what
was wrong with the input and nothing about the key itself.

| Scheme      | Marker | Public key       | Signature       |
|-------------|--------|------------------|-----------------|
| `ed25519`   | 1      | 32 bytes         | 64 bytes, R ‖ S |
| `secp256k1` | 2      | 64 bytes, x ‖ y  | 64 bytes, r ‖ s |
| `secp256r1` | 3      | 64 bytes, x ‖ y  | 64 bytes, r ‖ s |
-/

namespace Wallet

/-- The signature scheme of an account. -/
inductive KeyType where
  | ed25519
  | secp256k1
  | secp256r1
  deriving DecidableEq

/-- Why key material was refused. -/
inductive KeyError where
  | invalidSecretKey
  | invalidPublicKey (keyType : KeyType)
  | invalidSignature
  | keypairMismatch
  | missingPrivateKey
  | unknownKeyType (name : String)
  | decode (cause : DecodeError)
  deriving DecidableEq

namespace KeyType

/-- All schemes, in the order of their markers. -/
def all : List KeyType :=
  [.ed25519, .secp256k1, .secp256r1]

/-- The byte that stands for a scheme in a signed message. -/
def marker : KeyType → UInt8
  | .ed25519 => 1
  | .secp256k1 => 2
  | .secp256r1 => 3

/-- The scheme of a marker. -/
def ofMarker? (marker : UInt8) : Option KeyType :=
  all.find? fun t => t.marker = marker

/-- The name of a scheme in documents. -/
def name : KeyType → String
  | .ed25519 => "ed25519"
  | .secp256k1 => "secp256k1"
  | .secp256r1 => "secp256r1"

/-- The scheme of a name. -/
def ofName (name : String) : Except KeyError KeyType :=
  match all.find? fun t => t.name = name with
  | some t => .ok t
  | none => .error (.unknownKeyType name)

/-- The name of a scheme in descriptions of an account. -/
def title : KeyType → String
  | .ed25519 => "Ed25519"
  | .secp256k1 => "Secp256k1"
  | .secp256r1 => "Secp256r1"

/-- The number of bytes in a public key. -/
def publicKeyLength : KeyType → Nat
  | .ed25519 => 32
  | .secp256k1 => 64
  | .secp256r1 => 64

end KeyType

def KeyError.message : KeyError → String
  | .invalidSecretKey => "invalid secret key bytes: wrong length or not a valid scalar"
  | .invalidPublicKey keyType => s!"invalid public key bytes for {keyType.name}"
  | .invalidSignature => "invalid signature bytes: expected 64 bytes"
  | .keypairMismatch => "keypair validation failed: public key does not match secret key"
  | .missingPrivateKey => "account has no private key and cannot sign"
  | .unknownKeyType name => s!"unknown key type: {name}"
  | .decode cause => cause.message

/-- Read base58 text as key material. -/
def KeyError.decodeBase58 (text : String) : Except KeyError Bytes :=
  match Base58.decode text with
  | .ok bytes => .ok bytes
  | .error cause => .error (.decode (.base58 cause))

end Wallet
