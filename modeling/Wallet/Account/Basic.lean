import Wallet.Address
import Wallet.Key.Pair

/-!
# Accounts

Everything known about one key on one chain: the address, the public key and, where we hold them,
the key pair and the phrase it came from. An account without a key pair can verify but not sign.
-/

namespace Wallet

/-- An account. Its address is that of its public key, which is that of its key pair. -/
structure Account where
  address : Address
  publicKey : PublicKey
  keyPair : Option KeyPair
  seed : Option String
  nonce : UInt32
  address_eq : Address.ofPublicKey publicKey address.chainId = .ok address
  publicKey_eq : ∀ pair, keyPair = some pair → pair.publicKey = publicKey

namespace Account

/-- Accounts count as equal if address and public key are, whoever holds the secret. -/
instance : BEq Account where
  beq a b := a.address = b.address && a.publicKey = b.publicKey

def keyType (a : Account) : KeyType :=
  a.publicKey.keyType

def chainId (a : Account) : Char :=
  a.address.chainId

def canSign (a : Account) : Bool :=
  a.keyPair.isSome

/-- Sign a message, which needs the key pair. -/
def sign (a : Account) (message : Bytes) : Except KeyError Signature :=
  match a.keyPair with
  | some pair => .ok (pair.sign message)
  | none => .error .missingPrivateKey

def verify (a : Account) (message : Bytes) (signature : Signature) : Bool :=
  a.publicKey.verify message signature

/-- A description that shows no secret. -/
def describe (a : Account) : String :=
  "Account \x7b " ++ s!"address: {a.address.describe}, key_type: {a.keyType.title}, " ++
    s!"nonce: {a.nonce}, can_sign: {a.canSign}" ++ " \x7d"

end Account

end Wallet
