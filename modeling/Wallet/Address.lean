import Wallet.Key.Public
import Wallet.Network

/-!
# Addresses

An address is 26 bytes cut from a public key, shown in base58:

    body    = 1 ‖ chain ‖ first 20 bytes of the hash of the key
    address = body ‖ first 4 bytes of the hash of the body

The last four bytes are a checksum. Reading checks the length first, then the checksum, then the
version byte, so a damaged byte is reported as a wrong checksum wherever it stands.
-/

namespace Wallet

/-- Why an address was refused. -/
inductive AddressError where
  | invalidChainId (chain : Char)
  | wrongVersion (found : UInt8)
  | wrongLength (found : Nat)
  | wrongChecksum
  | decode (cause : DecodeError)
  deriving DecidableEq

namespace Address

/-- The number of bytes in an address. -/
def length : Nat := 26

/-- The first byte of every address. -/
def version : UInt8 := 1

/-- The four bytes that close an address. -/
def checksum (body : Bytes) : Bytes :=
  (Hash.secure body).list.take 4

theorem length_checksum (body : Bytes) : (checksum body).length = 4 := by
  simp [checksum, (Hash.secure body).length_eq]

end Address

/-- An address: its version byte and its checksum are right, however it was made. -/
structure Address where
  octets : Octets 26
  checksum_eq : octets.list.drop 22 = Address.checksum (octets.list.take 22)
  version_eq : octets.list.getD 0 0 = Address.version
  deriving DecidableEq

def AddressError.message : AddressError → String
  | .invalidChainId chain =>
    s!"invalid chain id {Text.quotedChar chain}: must be a single ASCII character"
  | .wrongVersion found => s!"wrong address version: expected {Address.version}, got {found}"
  | .wrongLength found => s!"wrong address length: expected {Address.length} bytes, got {found}"
  | .wrongChecksum => "address checksum mismatch"
  | .decode cause => cause.message

namespace Address

def bytes (a : Address) : Bytes :=
  a.octets.list

/-! ## §1. Derivation -/

/-- The bytes in front of the checksum. -/
def bodyOf (chain : UInt8) (key : PublicKey) : Bytes :=
  version :: chain :: (Hash.secure key.bytes).list.take 20

/-- A body with its checksum. -/
def withChecksum (body : Bytes) : Bytes :=
  body ++ checksum body

theorem length_bodyOf (chain : UInt8) (key : PublicKey) : (bodyOf chain key).length = 22 := by
  simp [bodyOf, (Hash.secure key.bytes).length_eq]

theorem length_withChecksum (chain : UInt8) (key : PublicKey) :
    (withChecksum (bodyOf chain key)).length = 26 := by
  simp [withChecksum, length_checksum, length_bodyOf]

/-- The address of a key on the chain of a byte. -/
def derive (chain : UInt8) (key : PublicKey) : Address where
  octets := ⟨withChecksum (bodyOf chain key), length_withChecksum chain key⟩
  checksum_eq := by
    have hbody := length_bodyOf chain key
    simp [withChecksum, List.drop_left' hbody, List.take_left' hbody]
  version_eq := rfl

/-- The address of a key on a chain. -/
def ofPublicKey (key : PublicKey) (chain : Char) : Except AddressError Address :=
  if Network.isChainId chain then .ok (derive (UInt8.ofNat chain.toNat) key)
  else .error (.invalidChainId chain)

/-! ## §2. Reading and writing -/

/-- Read an address from its bytes. -/
def ofBytes (bytes : Bytes) : Except AddressError Address :=
  if length_eq : bytes.length = 26 then
    if checksum_eq : bytes.drop 22 = checksum (bytes.take 22) then
      if version_eq : bytes.getD 0 0 = version then
        .ok ⟨⟨bytes, length_eq⟩, checksum_eq, version_eq⟩
      else .error (.wrongVersion (bytes.getD 0 0))
    else .error .wrongChecksum
  else .error (.wrongLength bytes.length)

/-- Read an address from its text. -/
def ofText (text : String) : Except AddressError Address :=
  match Base58.decode text with
  | .ok bytes => ofBytes bytes
  | .error cause => .error (.decode (.base58 cause))

def toText (a : Address) : String :=
  Base58.encode a.bytes

/-- Check that a text is an address. -/
def validate (text : String) : Except AddressError Bool := do
  let _ ← ofText text
  return true

/-- The byte of the chain. -/
def chainByte (a : Address) : UInt8 :=
  a.bytes.getD 1 0

/-- The chain; a byte above ASCII stands for the character of the same number. -/
def chainId (a : Address) : Char :=
  Char.ofNat a.chainByte.toNat

/-- Whether an address is that of a key on its own chain. -/
def matchesKey (a : Address) (key : PublicKey) : Bool :=
  match ofPublicKey key a.chainId with
  | .ok derived => derived = a
  | .error _ => false

def describe (a : Address) : String :=
  s!"Address({a.toText})"

/-! ## §3. The chain of a derived address -/

@[simp] theorem chainByte_derive (chain : UInt8) (key : PublicKey) :
    (derive chain key).chainByte = chain := rfl

/-- The chain of a derived address is the one it was derived on. -/
theorem chainId_derive {chain : Char} (hchain : Network.isChainId chain = true)
    (key : PublicKey) : (derive (UInt8.ofNat chain.toNat) key).chainId = chain := by
  have hlt : chain.toNat < 128 := by simpa [Network.isChainId] using hchain
  have hbyte : (UInt8.ofNat chain.toNat).toNat = chain.toNat := by
    simp [Nat.mod_eq_of_lt (show chain.toNat < 256 by omega)]
  rw [chainId, chainByte_derive, hbyte]
  exact Char.ofNat_toNat chain

theorem ofPublicKey_chainId_derive {chain : Char} (hchain : Network.isChainId chain = true)
    (key : PublicKey) :
    ofPublicKey key (derive (UInt8.ofNat chain.toNat) key).chainId =
      .ok (derive (UInt8.ofNat chain.toNat) key) := by
  rw [chainId_derive hchain]
  simp [ofPublicKey, hchain]

end Address

end Wallet
