import Wallet.Proofs.Address
import Wallet.Proofs.Key
import Wallet.Proofs.Transaction.Fields

/-!
# One text for each value

Ids, keys, addresses and proofs are compared as text, so it matters that a value has one text. A
text is read as a value exactly if it is the one that the value is written as; a script has two,
one with the marker and one without it (`CanonicalText`).

All of this rests on the two encodings, and the statement says for each of them which bytes a text
stands for: as numerals in base 58 and base 64 (`Base58.Spells`, `Base64.Spells`), with leading
ones for leading zeros, and with complete padding and no bits to spare.
-/

namespace Wallet

/-- What a text is read as, and what bytes are written as. -/
structure CanonicalText (text : String) (bytes : Bytes) : Prop where
  address (a : Address) : Address.ofText text = .ok a ↔ text = a.toText
  validate : Address.validate text = .ok true ↔ ∃ a : Address, text = a.toText
  signature (s : Signature) : Signature.ofBase58 text = .ok s ↔ text = s.toBase58
  /-- The bytes of a public key have to encode a point as well. -/
  publicKey (keyType : KeyType) (k : PublicKey) : PublicKey.ofBase58 keyType text = .ok k ↔
    PublicKey.ofBytes keyType k.bytes = .ok k ∧ text = k.toBase58
  leaseId (body : Body) : Body.newCancelLease text = .ok body ↔
    ∃ id, body = .cancelLease id ∧ text = Base58.encode id.list
  script (body : Body) : Body.newSetScript text = .ok body ↔
    ∃ script, body = .setScript script ∧
      (text = Base64.encode script ∨ text = "base64:" ++ Base64.encode script)
  /-- The two texts of a script are different ones. -/
  scriptTexts : Base64.encode bytes ≠ "base64:" ++ Base64.encode bytes
  /-- Base58 reads what it writes, leading zeros included, and nothing else. -/
  readsBase58 : Base58.decode (Base58.encode bytes) = .ok bytes
  base58 : Base58.decode text = .ok bytes ↔ text = Base58.encode bytes
  spellsBase58 : Base58.decode text = .ok bytes ↔ Base58.Spells text bytes
  readsBase64 : Base64.decode (Base64.encode bytes) = .ok bytes
  base64 : Base64.decode text = .ok bytes ↔ text = Base64.encode bytes
  spellsBase64 : Base64.decode text = .ok bytes ↔ Base64.Spells text bytes

theorem Address.validate_eq_ok_iff {text : String} :
    validate text = .ok true ↔ ∃ a : Address, text = a.toText := by
  simp only [validate, bind_eq_ok, pure_eq_ok, and_true, ofText_eq_ok_iff]

/-- **Text forms are canonical**: every value has one text, and a script has two. -/
theorem canonical_text (text : String) (bytes : Bytes) : CanonicalText text bytes where
  address _ := Address.ofText_eq_ok_iff
  validate := Address.validate_eq_ok_iff
  signature _ := Signature.ofBase58_eq_ok_iff
  publicKey _ _ := PublicKey.ofBase58_eq_ok_iff
  leaseId _ := Transaction.newCancelLease_eq_ok_iff
  script body := by
    rw [Body.newSetScript_eq_ok_iff]
    simp only [Script.ofText_eq_ok_iff]
    rfl
  scriptTexts := Script.encode_ne_toText bytes
  readsBase58 := Base58.decode_encode bytes
  base58 := Base58.decode_eq_ok_iff
  spellsBase58 := Base58.decode_eq_ok_iff_spells
  readsBase64 := Base64.decode_encode bytes
  base64 := Base64.decode_eq_ok_iff
  spellsBase64 := Base64.decode_eq_ok_iff_spells

end Wallet
