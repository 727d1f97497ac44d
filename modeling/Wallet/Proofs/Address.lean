import Wallet.Account.Basic
import Wallet.Proofs.Text.Base58

/-!
# Addresses as text, and the keys they belong to

An address is read back from its bytes and from its text, and no other text is read as it. Whether
it belongs to a key is decided on its own chain, and only a chain with an ASCII character has
addresses that belong to any key.
-/

namespace Wallet.Address

/-! ## §1. Reading back -/

/-- The three checks are what the fields of an address promise. -/
theorem ofBytes_bytes (a : Address) : ofBytes a.bytes = .ok a := by
  rw [ofBytes, dif_pos (show a.bytes.length = 26 from a.octets.length_eq),
    dif_pos (show a.bytes.drop 22 = checksum (a.bytes.take 22) from a.checksum_eq),
    dif_pos (show a.bytes.getD 0 0 = version from a.version_eq)]
  rfl

@[simp] theorem ofText_toText (a : Address) : ofText a.toText = .ok a := by
  rw [ofText, toText, Base58.decode_encode]
  exact a.ofBytes_bytes

theorem bytes_of_ofBytes {bytes : Bytes} {a : Address} (hread : ofBytes bytes = .ok a) :
    a.bytes = bytes := by
  -- Length, checksum and version are checked, and the bytes are kept.
  unfold ofBytes at hread
  split at hread
  · split at hread
    · split at hread
      · cases hread
        rfl
      · cases hread
    · cases hread
  · cases hread

/-- An address has one text. -/
theorem toText_of_ofText {text : String} {a : Address} (hread : ofText text = .ok a) :
    a.toText = text := by
  unfold ofText at hread
  split at hread
  · next hdecode => rw [toText, bytes_of_ofBytes hread, Base58.encode_of_decode hdecode]
  · cases hread

/-- An address is read from its text and from no other. -/
theorem ofText_eq_ok_iff {text : String} {a : Address} :
    ofText text = .ok a ↔ text = a.toText := by
  constructor
  · intro hread
    exact (toText_of_ofText hread).symm
  · rintro rfl
    exact a.ofText_toText

/-! ## §2. Addresses and keys -/

/-- An address belongs to a key if the key has that address on its chain. -/
theorem matchesKey_iff {a : Address} {key : PublicKey} :
    a.matchesKey key = true ↔ ofPublicKey key a.chainId = .ok a := by
  unfold matchesKey
  cases hderive : ofPublicKey key a.chainId with
  | error e => simp
  | ok derived => simp

theorem isChainId_of_ofPublicKey {a : Address} {key : PublicKey} {chain : Char}
    (hderive : ofPublicKey key chain = .ok a) : Network.isChainId chain = true := by
  unfold ofPublicKey at hderive
  split at hderive
  · assumption
  · cases hderive

/-- The chain of an address is the character whose number is its chain byte. -/
theorem toNat_chainId (a : Address) : a.chainId.toNat = a.chainByte.toNat :=
  toNat_ofNat_byte a.chainByte

end Wallet.Address

namespace Wallet.Account

theorem matchesKey_address (a : Account) : a.address.matchesKey a.publicKey = true :=
  Address.matchesKey_iff.mpr a.address_eq

end Wallet.Account
