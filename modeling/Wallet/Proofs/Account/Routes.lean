import Wallet.Proofs.Key.Pair

/-!
# All routes lead to one account

A profile opens the account of a phrase. The same account is reached from the secret that it
exports and from its public key, each as bytes or as text; only what is remembered besides the
keys differs, and whether there is something to sign with (`Routes`).

That no route fails comes down to two facts about key pairs: the secret that one exports is read
back, and its public half is accepted as a public key.
-/

namespace Wallet

/-! ## §1. Accounts that do the same -/

namespace Account

/-- An account that does whatever another one does. -/
structure SignsAlike (a b : Account) : Prop where
  address : b.address = a.address
  publicKey : b.publicKey = a.publicKey
  sign (message : Bytes) : ∃ s, a.sign message = .ok s ∧ b.sign message = .ok s
  verify (message : Bytes) (s : Signature) : b.verify message s = a.verify message s

/-- An account that counts as equal to another one and does what can be done without a secret. -/
structure ReadsAlike (a b : Account) : Prop where
  equal : (b == a) = true
  canSign : b.canSign = false
  sign (message : Bytes) : b.sign message = .error .missingPrivateKey
  verify (message : Bytes) (s : Signature) : b.verify message s = a.verify message s

end Account

/-- The account `a` belongs to a profile, and it is reached from everything it gives away. -/
structure Routes (p : Profile) (a : Account) : Prop where
  address : Address.ofPublicKey a.publicKey p.chainId = .ok a.address
  chainId : a.chainId = p.chainId
  keyType : a.keyType = p.keyType
  /-- The secret that is exported leads back to it, as bytes and as text. -/
  secret : ∃ pair b, a.keyPair = some pair ∧ p.fromSecret pair.secretBytes = .ok b ∧
    p.fromSecretBase58 pair.secretBase58 = .ok b ∧ a.SignsAlike b
  /-- So does the public key, to an account that cannot sign. -/
  publicKey : ∃ b, p.fromPublic a.publicKey.bytes = .ok b ∧
    p.fromPublicBase58 a.publicKey.toBase58 = .ok b ∧ a.ReadsAlike b

namespace Profile

variable (p : Profile)

/-- The secret that a pair exports opens its account, which then remembers no phrase. -/
theorem fromSecret_secretBytes {pair : KeyPair} (htype : pair.keyType = p.keyType) :
    p.fromSecret pair.secretBytes = .ok (p.ofKeyPair pair none 0) :=
  fromSecret_eq_ok_iff.mpr ⟨pair, htype, pair.secretForm_secretBytes, rfl⟩

theorem fromPublic_bytes {key : PublicKey} (htype : key.keyType = p.keyType)
    (hreadable : key.Readable) : p.fromPublic key.bytes = .ok (p.ofKey key) := by
  rw [fromPublic, ← htype, hreadable]

theorem fromPublicBase58_toBase58 (key : PublicKey) :
    p.fromPublicBase58 key.toBase58 = p.fromPublic key.bytes := by
  rw [fromPublicBase58, PublicKey.toBase58, KeyError.decodeBase58_encode]

theorem ofPublicKey_addressOf_chainId (key : PublicKey) :
    Address.ofPublicKey key p.chainId = .ok (p.addressOf key) := by
  rw [Address.ofPublicKey, if_pos p.isChainId, addressOf]

theorem chainId_addressOf (key : PublicKey) : (p.addressOf key).chainId = p.chainId :=
  Address.chainId_derive p.isChainId key

/-- The account of a key pair is reached on all routes, whatever it remembers besides. -/
theorem routes_ofKeyPair {pair : KeyPair} (htype : pair.keyType = p.keyType)
    (seed : Option String) (nonce : UInt32) : Routes p (p.ofKeyPair pair seed nonce) where
  address := p.ofPublicKey_addressOf_chainId pair.publicKey
  chainId := p.chainId_addressOf pair.publicKey
  keyType := pair.keyType_publicKey.trans htype
  secret := by
    have hbytes := p.fromSecret_secretBytes htype
    have htext := p.fromSecretBase58_of_decode (Base58.decode_encode pair.secretBytes)
    refine ⟨pair, _, rfl, hbytes, htext.trans hbytes, ?_⟩
    exact ⟨rfl, rfl, fun message => ⟨pair.sign message, rfl, rfl⟩, fun _ _ => rfl⟩
  publicKey := by
    -- The key of a pair can be read, so both forms of it are accepted.
    have hbytes := p.fromPublic_bytes (pair.keyType_publicKey.trans htype) pair.readable_publicKey
    have htext := p.fromPublicBase58_toBase58 pair.publicKey
    refine ⟨_, hbytes, htext.trans hbytes, ?_⟩
    exact ⟨by simp [BEq.beq, ofKey, ofKeyPair], rfl, fun _ => rfl, fun _ _ => rfl⟩

/-- **All routes to the account of a phrase agree**, on every chain and under every scheme. -/
theorem routes_fromPhrase (phrase : String) (nonce : UInt32) :
    Routes p (p.fromPhrase phrase nonce) :=
  p.routes_ofKeyPair (KeyPair.keyType_ofSeed _ _) (some phrase) nonce

end Profile

end Wallet
