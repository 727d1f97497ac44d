import Wallet.Proofs.Address
import Wallet.Proofs.Key
import Wallet.Proofs.Outcome
import Wallet.Proofs.Transaction.Body
import Wallet.Transaction.Document

/-!
# What a document has to say

`ofFields_eq_ok_iff` takes the reading of a document apart: a document is read as a transaction
exactly if each part of the transaction is what the fields for that part say (`Read`). Nothing
about reading is opened after that.

Two of the parts carry guarantees of their own. A body that was read is well-formed
(`readBody_eq_ok`), and the address of a party that was read belongs to its key, which in turn
can be read again (`readSigner_eq_ok`).
-/

namespace Wallet.Transaction

/-! ## §1. The state of signing -/

/-- Parties and proofs amount to a state exactly if they are the parties and proofs of that
state, so none of them is lost or made up. -/
theorem assemble_eq_ok_iff {sender sponsor : Option Signer} {proofs : List Signature}
    {signing : Signing} :
    assemble sender sponsor proofs = .ok signing ↔
      signing.sender? = sender ∧ signing.sponsor? = sponsor ∧ signing.proofs = proofs := by
  constructor
  · intro hassemble
    unfold assemble at hassemble
    split at hassemble
    · cases hassemble
      exact ⟨rfl, rfl, rfl⟩
    · cases hassemble
    · cases hassemble
    · cases hassemble
      exact ⟨rfl, rfl, rfl⟩
    · cases hassemble
    · cases hassemble
      refine ⟨rfl, rfl, ?_⟩
      -- The last proof is the sponsor's; the list is the same with it split off.
      rw [Signing.proofs, List.dropLast_append_getLast]
  · rintro ⟨rfl, rfl, rfl⟩
    cases signing with
    | unsigned => rfl
    | signed sender proof cosigned => rfl
    | sponsored sender proof cosigned sponsor sponsorProof =>
      simp only [Signing.sender?, Signing.sponsor?, Signing.proofs]
      cases cosigned with
      | nil => rfl
      | cons next rest => simp [assemble, List.dropLast_cons_of_ne_nil]

/-! ## §2. Documents -/

/-- Each part of a transaction is what the fields for that part say. -/
structure Read (fields : Fields) (tx : Transaction) : Prop where
  kind : readKind fields = .ok tx.kind
  version : readVersion fields = .ok tx.version
  supported : tx.kind.supports tx.version = true
  body : readBody fields tx.kind = .ok tx.body
  fits : tx.body.fits tx.version = true
  fee : unsignedField fields "fee" = .ok tx.fee
  timestamp : optionalUnsigned fields "timestamp" = .ok tx.timestamp
  sender : readSigner fields .sender none = .ok tx.sender?
  sponsor : readSigner fields .sponsor tx.chainId? = .ok tx.sponsor?
  proofs : readProofs fields = .ok tx.proofs

/-- A body that was read is of the kind that was asked for and well-formed. -/
theorem readBody_eq_ok {fields : Fields} {kind : Kind} {body : Body}
    (hread : readBody fields kind = .ok body) : body.kind = kind ∧ body.WellFormed := by
  -- Every reader ends with the function that makes the body, so that function decides.
  cases kind with
  | transfer =>
    simp only [readBody, bind_eq_ok] at hread
    obtain ⟨recipient, -, amount, -, attachment, -, hbody⟩ := hread
    exact Body.newTransfer_eq_ok hbody
  | lease =>
    simp only [readBody, bind_eq_ok] at hread
    obtain ⟨recipient, -, amount, -, hbody⟩ := hread
    exact Body.newLease_eq_ok hbody
  | cancelLease =>
    simp only [readBody, bind_eq_ok] at hread
    obtain ⟨leaseId, -, hbody⟩ := hread
    exact Body.newCancelLease_eq_ok hbody
  | massTransfer =>
    simp only [readBody, bind_eq_ok] at hread
    obtain ⟨items, -, entries, -, attachment, -, hbody⟩ := hread
    exact Body.newMassTransfer_eq_ok hbody
  | setScript =>
    simp only [readBody, bind_eq_ok] at hread
    obtain ⟨text, -, hbody⟩ := hread
    exact Body.newSetScript_eq_ok hbody
  | anchor =>
    simp only [readBody, bind_eq_ok] at hread
    obtain ⟨anchors, -, hbody⟩ := hread
    split at hbody
    · simp only [bind_eq_ok] at hbody
      obtain ⟨text, -, hash, -, hbody⟩ := hbody
      cases hbody
      exact ⟨rfl, trivial⟩
    · cases hbody
  | association =>
    simp only [readBody, bind_eq_ok] at hread
    obtain ⟨expires, -, recipient, -, type, -, hash, -, hbody⟩ := hread
    cases hbody
    exact ⟨rfl, Body.wellFormed_assumedAssociation ..⟩
  | revokeAssociation =>
    simp only [readBody, bind_eq_ok] at hread
    obtain ⟨recipient, -, type, -, hash, -, hbody⟩ := hread
    cases hbody
    exact ⟨rfl, Body.wellFormed_newRevokeAssociation recipient type hash⟩
  | sponsorship =>
    simp only [readBody, bind_eq_ok] at hread
    obtain ⟨recipient, -, hbody⟩ := hread
    cases hbody
    exact ⟨rfl, trivial⟩
  | cancelSponsorship =>
    simp only [readBody, bind_eq_ok] at hread
    obtain ⟨recipient, -, hbody⟩ := hread
    cases hbody
    exact ⟨rfl, trivial⟩

/-- **A document is read exactly as what its fields say.** -/
theorem ofFields_eq_ok_iff {fields : Fields} {tx : Transaction} :
    ofFields fields = .ok tx ↔ Read fields tx := by
  constructor
  · intro hread
    -- One link of the chain for each part of the transaction.
    simp only [ofFields, bind_eq_ok] at hread
    obtain ⟨kind, hkind, version, hversion, ⟨⟩, hsupported, body, hbody, ⟨⟩, hfits, fee, hfee,
      timestamp, htimestamp, sender, hsender, sponsor, hsponsor, proofs, hproofs, signing,
      hsigning, htx⟩ := hread
    cases htx
    obtain ⟨rfl, rfl, rfl⟩ := assemble_eq_ok_iff.mp hsigning
    obtain ⟨rfl, -⟩ := readBody_eq_ok hbody
    exact ⟨hkind, hversion, Body.checkVersion_eq_ok_iff.mp hsupported, hbody,
      Body.checkFits_eq_ok_iff.mp hfits, hfee, htimestamp, hsender, hsponsor, hproofs⟩
  · intro hread
    -- Parties and proofs of a state can be put together again.
    have hsigning : assemble tx.sender? tx.sponsor? tx.proofs = .ok tx.signing :=
      assemble_eq_ok_iff.mpr ⟨rfl, rfl, rfl⟩
    have hsponsor : readSigner fields .sponsor (tx.sender?.map fun s => s.address.chainId) =
        .ok tx.sponsor? := hread.sponsor
    simp only [ofFields, hread.kind, hread.version, hread.body, hread.fee, hread.timestamp,
      hread.sender, hsponsor, hread.proofs, hsigning, Body.checkVersion, Body.checkFits,
      hread.supported, hread.fits, ok_bind, if_true]
    rfl

theorem ofJson_eq_ok_iff {document : Json} {tx : Transaction} :
    ofJson document = .ok tx ↔
      ∃ fields, document.asObject? = some fields ∧ Read fields tx := by
  unfold ofJson
  cases hobject : document.asObject? with
  | none => simp [demand, refuse]
  | some fields => simp [demand, ofFields_eq_ok_iff]

/-! ## §3. Parties -/

theorem liftKey_eq_ok {α : Type} {x : Except KeyError α} {a : α} :
    TransactionError.liftKey x = .ok a ↔ x = .ok a := by
  cases x <;> simp [TransactionError.liftKey]

/-- The address of a party that was read belongs to its key, and the key can be read again. -/
theorem readSigner_eq_ok {fields : Fields} {role : Role} {chain : Option Char} {signer : Signer}
    (hread : readSigner fields role chain = .ok (some signer)) :
    signer.address.matchesKey signer.publicKey = true ∧ signer.publicKey.Readable := by
  unfold readSigner at hread
  split at hread
  · simp only [bind_eq_ok] at hread
    obtain ⟨known, hknown, hsome⟩ := hread
    cases hsome
    simp only [readKnownSigner, bind_eq_ok] at hknown
    obtain ⟨text, -, keyType, -, key, hkey, address, -, hknown⟩ := hknown
    -- An address that is not that of the key is refused.
    split at hknown
    · next hmatches =>
      cases hknown
      exact ⟨hmatches, PublicKey.readable_of_ofBase58 (liftKey_eq_ok.mp hkey)⟩
    · cases hknown
  · split at hread <;> cases hread

end Wallet.Transaction
