import Wallet.Account.Basic
import Wallet.Key.Seed
import Wallet.Phrase.Generation

/-!
# Where accounts come from

A profile is a chain and a signature scheme. It makes accounts from whatever is at hand: a phrase
and an account number, an exported secret, or a public key alone. All routes lead to the same
account, since the address is computed from the public key and the chain.
-/

namespace Wallet

/-- The parts of an account that can be compared with expected values. -/
inductive AccountPart where
  | address
  | publicKey
  | privateKey
  deriving DecidableEq

def AccountPart.name : AccountPart → String
  | .address => "address"
  | .publicKey => "public key"
  | .privateKey => "private key"

/-- Why an account was not made or did not pass a check. -/
inductive AccountError where
  | key (cause : KeyError)
  | address (cause : AddressError)
  | mismatch (part : AccountPart)
  deriving DecidableEq

def AccountError.message : AccountError → String
  | .key cause => cause.message
  | .address cause => cause.message
  | .mismatch part => s!"account {part.name} does not match the expected value"

/-- A chain and a scheme. -/
structure Profile where
  chainId : Char
  keyType : KeyType
  isChainId : Network.isChainId chainId = true
  deriving DecidableEq

namespace Profile

/-- The main network with the first scheme. -/
def standard : Profile :=
  ⟨Network.mainnet, .ed25519, rfl⟩

/-- The profile of a chain with the first scheme. -/
def ofChain (chain : Char) : Except AddressError Profile :=
  if h : Network.isChainId chain = true then .ok ⟨chain, .ed25519, h⟩
  else .error (.invalidChainId chain)

/-- The same chain with another scheme. -/
def withKeyType (p : Profile) (keyType : KeyType) : Profile :=
  { p with keyType }

/-- The address of a key on the chain of a profile. -/
def addressOf (p : Profile) (key : PublicKey) : Address :=
  Address.derive (UInt8.ofNat p.chainId.toNat) key

theorem ofPublicKey_addressOf (p : Profile) (key : PublicKey) :
    Address.ofPublicKey key (p.addressOf key).chainId = .ok (p.addressOf key) :=
  Address.ofPublicKey_chainId_derive p.isChainId key

/-! ## §1. Making accounts -/

/-- The account of a key pair. -/
def ofKeyPair (p : Profile) (pair : KeyPair) (seed : Option String) (nonce : UInt32) : Account :=
  { address := p.addressOf pair.publicKey
    publicKey := pair.publicKey
    keyPair := some pair
    seed := seed
    nonce := nonce
    address_eq := p.ofPublicKey_addressOf pair.publicKey
    publicKey_eq := fun _ hpair => by rw [Option.some.inj hpair] }

/-- The account of a public key alone. -/
def ofKey (p : Profile) (key : PublicKey) : Account where
  address := p.addressOf key
  publicKey := key
  keyPair := none
  seed := none
  nonce := 0
  address_eq := p.ofPublicKey_addressOf key
  publicKey_eq := nofun

/-- The account of a phrase and an account number. -/
def fromPhrase (p : Profile) (phrase : String) (nonce : UInt32) : Account :=
  p.ofKeyPair (KeyPair.ofSeed p.keyType (accountSeed phrase nonce)) (some phrase) nonce

/-- The first account of a fresh phrase. -/
def fresh (p : Profile) (draws : Vector UInt32 5) : Account :=
  p.fromPhrase (Phrase.generate draws) 0

/-- The account of an exported secret. -/
def fromSecret (p : Profile) (secret : Bytes) : Except AccountError Account :=
  match KeyPair.ofSecretBytes p.keyType secret with
  | .ok pair => .ok (p.ofKeyPair pair none 0)
  | .error cause => .error (.key cause)

/-- The account of an exported secret in base58. -/
def fromSecretBase58 (p : Profile) (text : String) : Except AccountError Account :=
  match KeyError.decodeBase58 text with
  | .ok secret => p.fromSecret secret
  | .error cause => .error (.key cause)

/-- The account of a public key. It cannot sign. -/
def fromPublic (p : Profile) (key : Bytes) : Except AccountError Account :=
  match PublicKey.ofBytes p.keyType key with
  | .ok key => .ok (p.ofKey key)
  | .error cause => .error (.key cause)

/-- The account of a public key in base58. -/
def fromPublicBase58 (p : Profile) (text : String) : Except AccountError Account :=
  match KeyError.decodeBase58 text with
  | .ok key => p.fromPublic key
  | .error cause => .error (.key cause)

def describe (p : Profile) : String :=
  "AccountFactory \x7b " ++
    s!"chain_id: {Text.quotedChar p.chainId}, key_type: {p.keyType.title}" ++ " \x7d"

end Profile

/-! ## §2. Checking accounts -/

namespace Account

/-- Demand that an account has an address. -/
def checkAddress (a : Account) (expected : String) : Except AccountError Unit :=
  match Address.ofText expected with
  | .ok address => if address = a.address then .ok () else .error (.mismatch .address)
  | .error cause => .error (.address cause)

/-- Demand that an account has a public key. -/
def checkPublicKey (a : Account) (expected : String) : Except AccountError Unit :=
  match PublicKey.ofBase58 a.keyType expected with
  | .ok key => if key = a.publicKey then .ok () else .error (.mismatch .publicKey)
  | .error cause => .error (.key cause)

/-- Demand that an account holds a secret. -/
def checkPrivateKey (a : Account) (expected : String) : Except AccountError Unit :=
  match KeyPair.ofSecretBase58 a.keyType expected with
  | .ok pair =>
    match a.keyPair with
    | some held => if held == pair then .ok () else .error (.mismatch .privateKey)
    | none => .error (.mismatch .privateKey)
  | .error cause => .error (.key cause)

/-- Run a check for a value that may not be given. -/
def checkIfGiven (check : String → Except AccountError Unit) :
    Option String → Except AccountError Unit
  | some expected => check expected
  | none => .ok ()

/-- Compare an account with whatever is expected of it; the first difference decides. -/
def check (a : Account) (address publicKey privateKey : Option String) :
    Except AccountError Unit := do
  checkIfGiven a.checkAddress address
  checkIfGiven a.checkPublicKey publicKey
  checkIfGiven a.checkPrivateKey privateKey

end Account

/-- Have a profile compare an account with what is expected of it. It takes no part in that: the
account need not be one of its own. -/
def Profile.checkAccount (_ : Profile) (a : Account)
    (address publicKey privateKey : Option String) : Except AccountError Unit :=
  a.check address publicKey privateKey

end Wallet
