import Wallet.Proofs.Address
import Wallet.Proofs.Transaction.Fields
import Wallet.Proofs.Transaction.Reachable

/-!
# Whose address it is

The address that is cut from a key is an address by all checks, as bytes and as text, and it is on
the chain that was asked for (`Derived`). The other way round, an address belongs to a key exactly
if it is the one that is cut from the key on the chain of the address. Version and checksum are
right in any address, so that leaves two things to compare: the chain must have an ASCII character,
and the twenty bytes behind it must be those of the hash of the key (`matchesKey_iff_hash`).

An address whose chain byte is above ASCII is valid all the same. It belongs to no key, and no
document with such an address for a party is read.
-/

namespace Wallet.Address

/-! ## §1. From a key -/

/-- The bytes of the address of a key, part by part. -/
def cutFrom (key : PublicKey) (chain : UInt8) : Bytes :=
  let body := [1, chain] ++ (Hash.secure key.bytes).list.take 20
  body ++ (Hash.secure body).list.take 4

theorem bytes_derive (chain : UInt8) (key : PublicKey) :
    (derive chain key).bytes = cutFrom key chain := rfl

theorem ofPublicKey_of_ascii (key : PublicKey) {chain : Char} (hascii : chain.toNat < 128) :
    ofPublicKey key chain = .ok (derive (UInt8.ofNat chain.toNat) key) :=
  if_pos (decide_eq_true hascii)

theorem ofPublicKey_of_not_ascii (key : PublicKey) {chain : Char} (hascii : ¬ chain.toNat < 128) :
    ofPublicKey key chain = .error (.invalidChainId chain) :=
  if_neg (by simpa [Network.isChainId] using hascii)

/-- The address of a key on a chain, and what becomes of its bytes and of its text. -/
structure Derived (key : PublicKey) (chain : Char) (a : Address) : Prop where
  bytes : a.bytes = cutFrom key (UInt8.ofNat chain.toNat)
  readBytes : ofBytes (cutFrom key (UInt8.ofNat chain.toNat)) = .ok a
  readText : ofText (Base58.encode (cutFrom key (UInt8.ofNat chain.toNat))) = .ok a
  valid : validate a.toText = .ok true
  chain : a.chainId = chain

/-- What is cut from a key is an address by all checks. -/
theorem derived_derive (key : PublicKey) {chain : Char} (hascii : chain.toNat < 128) :
    Derived key chain (derive (UInt8.ofNat chain.toNat) key) where
  bytes := bytes_derive _ key
  readBytes := by
    rw [← bytes_derive]
    exact ofBytes_bytes _
  readText := by
    rw [← bytes_derive]
    exact ofText_toText _
  valid := by rw [validate, ofText_toText]; rfl
  chain := chainId_derive (decide_eq_true hascii) key

/-! ## §2. From an address -/

theorem bytes_inj {a b : Address} : a.bytes = b.bytes ↔ a = b := by
  constructor
  · intro hbytes
    have hread : (Except.ok a : Except AddressError Address) = .ok b := by
      rw [← a.ofBytes_bytes, hbytes, b.ofBytes_bytes]
    cases hread
    rfl
  · rintro rfl
    rfl

/-- An address belongs to a key exactly if it has the bytes of the address that is cut from the key
on its own chain. -/
theorem matchesKey_iff_bytes {a : Address} {key : PublicKey} :
    a.matchesKey key = true ↔ ∃ d, ofPublicKey key a.chainId = .ok d ∧ a.bytes = d.bytes := by
  rw [matchesKey_iff]
  constructor
  · intro hderive
    exact ⟨a, hderive, rfl⟩
  · rintro ⟨d, hderive, hbytes⟩
    rw [hderive, bytes_inj.mp hbytes]

/-- What stands in front of the checksum of an address: the version, the chain and twenty bytes. -/
theorem take_bytes (a : Address) :
    a.bytes.take 22 = [version, a.chainByte] ++ (a.bytes.drop 2).take 20 := by
  have hlength : a.bytes.length = 26 := a.octets.length_eq
  have hversion : a.bytes.getD 0 0 = version := a.version_eq
  match hbytes : a.bytes with
  | [] => simp [hbytes] at hlength
  | [_] => simp [hbytes] at hlength
  | first :: second :: rest =>
    have hchain : a.chainByte = second := by rw [chainByte, hbytes]; rfl
    rw [hbytes] at hversion
    rw [hchain, ← hversion]
    rfl

theorem bytes_eq_withChecksum (a : Address) : a.bytes = withChecksum (a.bytes.take 22) := by
  have hchecksum : a.bytes.drop 22 = checksum (a.bytes.take 22) := a.checksum_eq
  rw [withChecksum, ← hchecksum, List.take_append_drop]

/-- An address is cut from a key exactly if the twenty bytes behind the chain are. The bytes around
them are the same in any two addresses on a chain. -/
theorem eq_derive_iff {a : Address} {key : PublicKey} : a = derive a.chainByte key ↔
    (a.bytes.drop 2).take 20 = (Hash.secure key.bytes).list.take 20 := by
  have hbody : (derive a.chainByte key).bytes.take 22 = bodyOf a.chainByte key :=
    List.take_left' (length_bodyOf a.chainByte key)
  -- Version and chain are the same on both sides, so only the twenty bytes are compared.
  have hparts : a.bytes.take 22 = bodyOf a.chainByte key ↔
      (a.bytes.drop 2).take 20 = (Hash.secure key.bytes).list.take 20 := by
    rw [take_bytes]
    exact List.append_right_inj [version, a.chainByte]
  rw [← hparts]
  constructor
  · intro hderive
    rw [← hbody, ← hderive]
  · intro hsame
    apply bytes_inj.mp
    rw [a.bytes_eq_withChecksum, hsame]
    rfl

/-- An address that belongs to a key is on a chain with an ASCII character. -/
theorem chainByte_lt_of_matchesKey {a : Address} {key : PublicKey}
    (hmatches : a.matchesKey key = true) : a.chainByte.toNat < 128 := by
  have hchain := isChainId_of_ofPublicKey (matchesKey_iff.mp hmatches)
  rw [← toNat_chainId]
  exact of_decide_eq_true hchain

/-- **An address belongs to a key exactly if its chain is ASCII and the hash of the key is in it.** -/
theorem matchesKey_iff_hash {a : Address} {key : PublicKey} :
    a.matchesKey key = true ↔ a.chainByte.toNat < 128 ∧
      (a.bytes.drop 2).take 20 = (Hash.secure key.bytes).list.take 20 := by
  by_cases hascii : a.chainByte.toNat < 128
  · have hderive : ofPublicKey key a.chainId = .ok (derive a.chainByte key) := by
      rw [ofPublicKey_of_ascii key (by rwa [toNat_chainId]), toNat_chainId, UInt8.ofNat_toNat]
    rw [matchesKey_iff, hderive, Except.ok.injEq, eq_comm, eq_derive_iff, and_iff_right hascii]
  · exact iff_of_false (fun hmatches => hascii (chainByte_lt_of_matchesKey hmatches))
      fun hboth => hascii hboth.1

/-- The address that is cut from a key on a chain above ASCII is valid, and it belongs to no key. -/
example (key other : PublicKey) : (derive 0x80 key).matchesKey other = false := by
  refine Bool.eq_false_iff.mpr fun hmatches => ?_
  have hlt : (0x80 : UInt8).toNat < 128 := chainByte_lt_of_matchesKey hmatches
  exact absurd hlt (by decide)

end Address

/-! ## §3. Parties of a document -/

namespace Transaction

/-- The address that a document gives for a party is the one that the party has, or the document is
refused. -/
theorem address_of_readSigner {fields : Fields} {role : Role} {chain : Option Char} {a : Address}
    {party : Option Signer} (hfield : optional fields role.field = some (.string a.toText))
    (hread : readSigner fields role chain = .ok party) :
    ∃ key, party = some ⟨a, key⟩ ∧ a.matchesKey key = true := by
  unfold readSigner at hread
  split at hread
  · next keyJson _ =>
    obtain ⟨signer, hsigner, hparty⟩ := bind_eq_ok.mp hread
    cases hparty
    simp only [readKnownSigner, bind_eq_ok] at hsigner
    obtain ⟨text, -, keyType, -, key, -, address, haddress, hsigner⟩ := hsigner
    have hgiven : address = a := by
      simp only [readAddress, hfield, addressField_of_optional hfield] at haddress
      exact (Except.ok.inj haddress).symm
    split at hsigner
    · next hmatches =>
      cases hsigner
      exact ⟨key, by rw [hgiven], hgiven ▸ hmatches⟩
    · cases hsigner
  · -- Without a key there must be no address either.
    rw [hfield] at hread
    cases hread

/-- The address that a document gives for one of its parties belongs to a key. -/
theorem Read.exists_key {fields : Fields} {tx : Transaction} (hread : Read fields tx) {role : Role}
    {a : Address} (hfield : optional fields role.field = some (.string a.toText)) :
    ∃ key, a.matchesKey key = true := by
  cases role with
  | sender =>
    obtain ⟨key, -, hmatches⟩ := address_of_readSigner hfield hread.sender
    exact ⟨key, hmatches⟩
  | sponsor =>
    obtain ⟨key, -, hmatches⟩ := address_of_readSigner hfield hread.sponsor
    exact ⟨key, hmatches⟩

end Transaction

namespace Address

open Transaction (Fields optional ofJson ofJson_eq_ok_iff)

/-- What ties addresses to keys: those that are cut from a key, and a given one. -/
structure Ownership (key : PublicKey) (a : Address) : Prop where
  /-- A key has an address on every ASCII chain, which is accepted in every form. -/
  derived : ∀ chain : Char, chain.toNat < 128 →
    ∃ d, ofPublicKey key chain = .ok d ∧ Derived key chain d
  refused : ∀ chain : Char, ¬ chain.toNat < 128 →
    ofPublicKey key chain = .error (.invalidChainId chain)
  /-- An address belongs to a key exactly if it has the bytes of the one that is cut from it. -/
  bytes : a.matchesKey key = true ↔ ∃ d, ofPublicKey key a.chainId = .ok d ∧ a.bytes = d.bytes
  hash : a.matchesKey key = true ↔ a.chainByte.toNat < 128 ∧
    (a.bytes.drop 2).take 20 = (Hash.secure key.bytes).list.take 20
  foreign : 128 ≤ a.chainByte.toNat → a.matchesKey key = false
  /-- With a chain above ASCII it is no party of any document that is read. -/
  party : 128 ≤ a.chainByte.toNat → ∀ document tx, ofJson document = .ok tx →
    ∀ signer, tx.HasSigner signer → signer.address ≠ a
  /-- A document that names it as a party is refused. -/
  named : 128 ≤ a.chainByte.toNat → ∀ (document : Json) (fields : Fields) (role : Role),
    document.asObject? = some fields → optional fields role.field = some (.string a.toText) →
      ∃ e, ofJson document = .error e

/-- **Addresses that are cut from a key are valid, and an address belongs to the keys it is cut from
and to no others.** One on a chain above ASCII belongs to no key and is no party of a document. -/
theorem ownership (key : PublicKey) (a : Address) : Ownership key a := by
  have hforeign {k : PublicKey} (hchain : 128 ≤ a.chainByte.toNat) : ¬ a.matchesKey k = true :=
    fun hmatches => absurd (chainByte_lt_of_matchesKey hmatches) (by omega)
  constructor
  case derived =>
    intro chain hascii
    exact ⟨_, ofPublicKey_of_ascii key hascii, derived_derive key hascii⟩
  case refused => exact fun chain => ofPublicKey_of_not_ascii key
  case bytes => exact matchesKey_iff_bytes
  case hash => exact matchesKey_iff_hash
  case foreign => exact fun hchain => Bool.eq_false_iff.mpr (hforeign hchain)
  case party =>
    rintro hchain document tx hread signer hsigner rfl
    obtain ⟨fields, -, hfields⟩ := ofJson_eq_ok_iff.mp hread
    exact hforeign hchain (hfields.signer hsigner).1
  case named =>
    intro hchain document fields role hobject hfield
    cases hread : ofJson document with
    | error e => exact ⟨e, rfl⟩
    | ok tx =>
      -- Were the document read, the address in it would belong to a key.
      obtain ⟨fields', hobject', hfields⟩ := ofJson_eq_ok_iff.mp hread
      have hsame : fields' = fields := Option.some.inj (hobject'.symm.trans hobject)
      obtain ⟨k, hmatches⟩ := hfields.exists_key (hsame ▸ hfield)
      exact (hforeign hchain hmatches).elim

end Wallet.Address
