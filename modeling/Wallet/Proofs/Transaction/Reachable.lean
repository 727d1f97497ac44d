import Wallet.Account.Profile
import Wallet.Proofs.Key.Pair
import Wallet.Proofs.Transaction.Document
import Wallet.Proofs.Transaction.Signing

/-!
# Transactions that can come about

A transaction is made from a body, signed any number of times, or read from a document, and what
was read can be signed on. `Reachable` is the closure under these, and `Sound` is what they all
guarantee: the layout has room for the body, the body is well-formed, and the address of each
party belongs to its key.

The keys of the parties can be read again (`Reachable.readable`): each of them was read from a
document before or belongs to a key pair that signed. The last part spells the guarantee out.
-/

namespace Wallet.Transaction

/-! ## §1. Reachable transactions -/

/-- A transaction that some sequence of making, signing and reading leads to. -/
inductive Reachable : Transaction → Prop where
  | create {body : Body} {options : Options} {tx : Transaction} :
      body.Made → create body options = .ok tx → Reachable tx
  | act {tx tx' : Transaction} (a : Act) : Reachable tx → tx.act a = .ok tx' → Reachable tx'
  | read {document : Json} {tx : Transaction} : ofJson document = .ok tx → Reachable tx

/-- A party of a transaction. -/
def HasSigner (tx : Transaction) (signer : Signer) : Prop :=
  tx.sender? = some signer ∨ tx.sponsor? = some signer

theorem not_hasSigner_of_unsigned {tx : Transaction} {signer : Signer}
    (hunsigned : tx.signing = .unsigned) : ¬ tx.HasSigner signer := by
  simp [HasSigner, sender?, sponsor?, hunsigned, Signing.sender?, Signing.sponsor?]

/-! ## §2. The invariant -/

/-- What every reachable transaction satisfies. -/
structure Sound (tx : Transaction) : Prop where
  supported : tx.kind.supports tx.version = true
  fits : tx.body.fits tx.version = true
  body : tx.body.WellFormed
  signers : ∀ signer, tx.HasSigner signer → signer.address.matchesKey signer.publicKey = true

theorem kind_supports_defaultVersion (kind : Kind) : kind.supports kind.defaultVersion = true := by
  cases kind <;> decide

/-- The version that is chosen is one that the kind has. -/
theorem resolveVersion_eq_ok {choice : Option Version} {kind : Kind} {version : Version}
    (hversion : Options.resolveVersion choice kind = .ok version) :
    kind.supports version = true := by
  unfold Options.resolveVersion at hversion
  -- Without a choice it is the default of the kind; a choice is checked.
  split at hversion
  · cases hversion
    exact kind_supports_defaultVersion kind
  · split at hversion
    · cases hversion
      assumption
    · cases hversion

/-- What making a transaction guarantees, and what it keeps of its arguments. -/
theorem create_eq_ok {body : Body} {options : Options} {tx : Transaction}
    (hcreate : create body options = .ok tx) :
    tx.body = body ∧ tx.timestamp = options.timestamp ∧ tx.signing = .unsigned ∧
      tx.kind.supports tx.version = true ∧ tx.body.fits tx.version = true := by
  simp only [create, bind_eq_ok] at hcreate
  obtain ⟨version, hversion, ⟨⟩, hfits, fee, -, htx⟩ := hcreate
  cases htx
  exact ⟨rfl, rfl, rfl, resolveVersion_eq_ok hversion, Body.checkFits_eq_ok_iff.mp hfits⟩

/-- The version and the fee of what is made are those that were asked for. -/
theorem create_resolves {body : Body} {options : Options} {tx : Transaction}
    (hcreate : create body options = .ok tx) :
    Options.resolveVersion options.version body.kind = .ok tx.version ∧
      body.fee options.fee = .ok tx.fee := by
  simp only [create, bind_eq_ok] at hcreate
  obtain ⟨version, hversion, -, -, fee, hfee, htx⟩ := hcreate
  cases htx
  exact ⟨hversion, hfee⟩

theorem sound_of_create {body : Body} {options : Options} {tx : Transaction}
    (hmade : body.Made) (hcreate : create body options = .ok tx) : Sound tx := by
  obtain ⟨rfl, -, hunsigned, hsupported, hfits⟩ := create_eq_ok hcreate
  refine ⟨hsupported, hfits, hmade.wellFormed, ?_⟩
  exact fun signer hsigner => absurd hsigner (not_hasSigner_of_unsigned hunsigned)

/-- Signing adds no party but the account that signs. -/
theorem Signs.hasSigner {tx tx' : Transaction} {a : Act} (hsigns : Signs tx a tx')
    {signer : Signer} (hsigner : tx'.HasSigner signer) :
    tx.HasSigner signer ∨ signer = a.account.signer ∧ a.account.keyPair.isSome := by
  -- The first signature records the sender, the last one the sponsor, and no other a party.
  cases hsigns with
  | first hunsigned hpair hmessage =>
    rcases hsigner with hsender | hsponsor
    · right
      exact ⟨(Option.some.inj hsender).symm, by simp [Act.account, hpair]⟩
    · cases hsponsor
  | cosign hsigned hpair hmessage =>
    left
    rcases hsigner with hsender | hsponsor
    · exact .inl (sender?_of_signed hsigned ▸ hsender)
    · cases hsponsor
  | sponsor hsigned hpair hmessage =>
    rcases hsigner with hsender | hsponsor
    · exact .inl (.inl (sender?_of_signed hsigned ▸ hsender))
    · right
      exact ⟨(Option.some.inj hsponsor).symm, by simp [Act.account, hpair]⟩

/-- Signing changes neither body nor version. -/
theorem Signs.body_version {tx tx' : Transaction} {a : Act} (hsigns : Signs tx a tx') :
    tx'.body = tx.body ∧ tx'.version = tx.version := by
  cases hsigns <;> exact ⟨rfl, rfl⟩

/-- Every act keeps the invariant. -/
theorem Sound.act {tx tx' : Transaction} {a : Act} (hsound : Sound tx)
    (hsigns : Signs tx a tx') : Sound tx' := by
  obtain ⟨hbody, hversion⟩ := hsigns.body_version
  refine ⟨?_, ?_, ?_, ?_⟩
  · rw [kind, hbody, hversion]
    exact hsound.supported
  · rw [hbody, hversion]
    exact hsound.fits
  · rw [hbody]
    exact hsound.body
  · intro signer hsigner
    -- A new party is the account that signed, whose address is its key's.
    rcases hsigns.hasSigner hsigner with hold | ⟨rfl, -⟩
    · exact hsound.signers signer hold
    · exact a.account.matchesKey_address

/-- A party that is read has a key that can be read again, and the address of that key. -/
theorem Read.signer {fields : Fields} {tx : Transaction} (hread : Read fields tx)
    {signer : Signer} (hsigner : tx.HasSigner signer) :
    signer.address.matchesKey signer.publicKey = true ∧ signer.publicKey.Readable := by
  rcases hsigner with hsender | hsponsor
  · exact readSigner_eq_ok (hsender ▸ hread.sender)
  · exact readSigner_eq_ok (hsponsor ▸ hread.sponsor)

theorem Read.sound {fields : Fields} {tx : Transaction} (hread : Read fields tx) : Sound tx :=
  ⟨hread.supported, hread.fits, (readBody_eq_ok hread.body).2, fun _ hsigner =>
    (hread.signer hsigner).1⟩

/-- **Every reachable transaction satisfies the invariant.** -/
theorem Reachable.sound {tx : Transaction} (hreach : Reachable tx) : Sound tx := by
  -- The invariant holds however a transaction starts, and every act keeps it.
  induction hreach with
  | create hmade hcreate => exact sound_of_create hmade hcreate
  | act a _ hact ih => exact ih.act (act_eq_ok_iff.mp hact)
  | read hread =>
    obtain ⟨fields, -, hread⟩ := ofJson_eq_ok_iff.mp hread
    exact hread.sound

/-- Runs lead from reachable transactions to reachable ones. -/
theorem Reachable.run {acts : List Act} {tx tx' : Transaction} (hreach : Reachable tx)
    (hrun : tx.run acts = .ok tx') : Reachable tx' := by
  induction acts generalizing tx with
  | nil =>
    cases hrun
    exact hreach
  | cons a rest ih =>
    obtain ⟨next, hsigns, hrest⟩ := run_cons_eq_ok_iff.mp hrun
    exact ih (.act a hreach hsigns.act_eq_ok) hrest

/-- A run changes neither body nor version nor fee. -/
theorem run_keeps {acts : List Act} {tx tx' : Transaction} (hrun : tx.run acts = .ok tx') :
    tx'.body = tx.body ∧ tx'.version = tx.version ∧ tx'.fee = tx.fee := by
  induction acts generalizing tx with
  | nil =>
    cases hrun
    exact ⟨rfl, rfl, rfl⟩
  | cons a rest ih =>
    obtain ⟨next, hsigns, hrest⟩ := run_cons_eq_ok_iff.mp hrun
    obtain ⟨hbody, hversion, hfee⟩ := ih hrest
    rw [hbody, hversion, hfee]
    cases hsigns <;> exact ⟨rfl, rfl, rfl⟩

/-- **The keys on a reachable transaction can be read.** -/
theorem Reachable.readable {tx : Transaction} (hreach : Reachable tx) {signer : Signer}
    (hsigner : tx.HasSigner signer) : signer.publicKey.Readable := by
  -- A party comes in with a document, from which its key was read, or with a key pair.
  induction hreach with
  | create hmade hcreate =>
    obtain ⟨-, -, hunsigned, -⟩ := create_eq_ok hcreate
    exact absurd hsigner (not_hasSigner_of_unsigned hunsigned)
  | act a _ hact ih =>
    rcases (act_eq_ok_iff.mp hact).hasSigner hsigner with hold | ⟨rfl, hholds⟩
    · exact ih hold
    · obtain ⟨pair, hpair⟩ := Option.isSome_iff_exists.mp hholds
      have hkey : pair.publicKey = a.account.publicKey := a.account.publicKey_eq pair hpair
      show a.account.publicKey.Readable
      exact hkey ▸ pair.readable_publicKey
  | read hread =>
    obtain ⟨fields, -, hread⟩ := ofJson_eq_ok_iff.mp hread
    exact (hread.signer hsigner).2

/-! ## §3. The guarantee spelled out -/

/-- A well-formed transaction: what its parts promise, and what each state of signing means. -/
structure WellFormed (tx : Transaction) : Prop where
  supported : tx.kind.supports tx.version = true
  expires : ∀ recipient type hash time,
    tx.body = .association recipient type hash (some time) → tx.version = .v3 ∧ time ≠ 0
  associationHash : ∀ recipient type hash expires,
    tx.body = .association recipient type (some hash) expires → hash ≠ []
  revocationHash : ∀ recipient type hash,
    tx.body = .revokeAssociation recipient type (some hash) → hash ≠ []
  transferAmount : ∀ recipient amount attachment,
    tx.body = .transfer recipient amount attachment →
      1 ≤ amount.toNat ∧ amount.toNat ≤ Int64.maxValue.toInt.toNat
  leaseAmount : ∀ recipient amount, tx.body = .lease recipient amount →
    1 ≤ amount.toNat ∧ amount.toNat ≤ Int64.maxValue.toInt.toNat
  entries : ∀ entries attachment,
    tx.body = .massTransfer entries attachment → entries.length ≤ 100
  unsigned : tx.signing.name = "Unsigned" →
    tx.sender? = none ∧ tx.sponsor? = none ∧ tx.proofs = []
  senderSigned : tx.signing.name = "SenderSigned" →
    tx.sender?.isSome ∧ tx.sponsor? = none ∧ 1 ≤ tx.proofs.length
  fullySigned : tx.signing.name = "FullySigned" →
    tx.sender?.isSome ∧ tx.sponsor?.isSome ∧ 2 ≤ tx.proofs.length
  signers : ∀ signer, tx.HasSigner signer → ∃ chain : Char,
    Network.isChainId chain = true ∧ chain.toNat = signer.address.chainByte.toNat ∧
      Address.ofPublicKey signer.publicKey chain = .ok signer.address

theorem signing_name_unsigned {tx : Transaction} (hname : tx.signing.name = "Unsigned") :
    tx.sender? = none ∧ tx.sponsor? = none ∧ tx.proofs = [] := by
  unfold sender? sponsor? proofs
  cases hsigning : tx.signing with
  | unsigned => exact ⟨rfl, rfl, rfl⟩
  | signed sender proof cosigned => simp [hsigning, Signing.name] at hname
  | sponsored sender proof cosigned sponsor sponsorProof =>
    simp [hsigning, Signing.name] at hname

theorem signing_name_senderSigned {tx : Transaction}
    (hname : tx.signing.name = "SenderSigned") :
    tx.sender?.isSome ∧ tx.sponsor? = none ∧ 1 ≤ tx.proofs.length := by
  unfold sender? sponsor? proofs
  cases hsigning : tx.signing with
  | unsigned => simp [hsigning, Signing.name] at hname
  | signed sender proof cosigned => simp [Signing.sender?, Signing.sponsor?, Signing.proofs]
  | sponsored sender proof cosigned sponsor sponsorProof =>
    simp [hsigning, Signing.name] at hname

theorem signing_name_fullySigned {tx : Transaction} (hname : tx.signing.name = "FullySigned") :
    tx.sender?.isSome ∧ tx.sponsor?.isSome ∧ 2 ≤ tx.proofs.length := by
  unfold sender? sponsor? proofs
  cases hsigning : tx.signing with
  | unsigned => simp [hsigning, Signing.name] at hname
  | signed sender proof cosigned => simp [hsigning, Signing.name] at hname
  | sponsored sender proof cosigned sponsor sponsorProof =>
    simp [Signing.sender?, Signing.sponsor?, Signing.proofs]

/-- An address that belongs to a key is the one derived from it on an ASCII chain. -/
theorem exists_chain_of_matchesKey {address : Address} {key : PublicKey}
    (hmatches : address.matchesKey key = true) :
    ∃ chain : Char, Network.isChainId chain = true ∧ chain.toNat = address.chainByte.toNat ∧
      Address.ofPublicKey key chain = .ok address := by
  have hderive := Address.matchesKey_iff.mp hmatches
  exact ⟨address.chainId, Address.isChainId_of_ofPublicKey hderive, address.toNat_chainId,
    hderive⟩

/-- **Every reachable transaction is well-formed**, whichever way it came about. -/
theorem wellFormed_of_reachable {tx : Transaction} (hreach : Reachable tx) : WellFormed tx := by
  have hsound := hreach.sound
  have hbody := hsound.body
  have hfits := hsound.fits
  constructor
  case supported => exact hsound.supported
  case expires =>
    -- An expiry stands in the body, which fits the layout and never stores a zero.
    intro recipient type hash time heq
    rw [heq] at hbody hfits
    exact ⟨by simpa [Body.fits] using hfits, fun hzero => hbody.2 (by rw [hzero])⟩
  case associationHash =>
    intro recipient type hash expires heq hnil
    rw [heq, hnil] at hbody
    exact hbody.1 rfl
  case revocationHash =>
    intro recipient type hash heq hnil
    rw [heq, hnil] at hbody
    exact hbody rfl
  case transferAmount =>
    intro recipient amount attachment heq
    rw [heq] at hbody
    exact hbody
  case leaseAmount =>
    intro recipient amount heq
    rw [heq] at hbody
    exact hbody
  case entries =>
    intro entries attachment heq
    rw [heq] at hbody
    exact hbody
  case unsigned => exact signing_name_unsigned
  case senderSigned => exact signing_name_senderSigned
  case fullySigned => exact signing_name_fullySigned
  case signers =>
    exact fun signer hsigner => exists_chain_of_matchesKey (hsound.signers signer hsigner)

/-! ### An example

An association that expires, signed by its sender and another account and then sponsored. -/

namespace Example

def sender : Account := Profile.standard.fromPhrase "sender" 0

def cosigner : Account := (Profile.standard.withKeyType .secp256k1).fromPhrase "cosigner" 0

def sponsor : Account := Profile.standard.fromPhrase "sponsor" 0

def draft : Transaction :=
  ⟨.association sponsor.address 7 (some [1, 2, 3]) (some 2000), .v3, 100000000, none, .unsigned⟩

def acts : List Act := [.sign sender 1000, .sign cosigner 1001, .sponsor sponsor]

theorem reachable_draft : Reachable draft := by
  have hbody : Body.newAssociation 1000 sponsor.address 7 (some [1, 2, 3]) (some 2000) =
      .ok draft.body := rfl
  have hcreate : create draft.body .none = .ok draft := rfl
  exact .create (.association hbody) hcreate

end Example

/-- The sponsored association is well-formed. -/
theorem wellFormed_example : ∃ tx, Example.draft.run Example.acts = .ok tx ∧
    tx.proofs.length = 3 ∧ WellFormed tx := by
  obtain ⟨tx, hrun, hproofs⟩ :
      ∃ tx, Example.draft.run Example.acts = .ok tx ∧ tx.proofs.length = 3 := ⟨_, rfl, rfl⟩
  exact ⟨tx, hrun, hproofs, wellFormed_of_reachable (Example.reachable_draft.run hrun)⟩

end Wallet.Transaction
