import Wallet.Proofs.Account.Routes
import Wallet.Proofs.Transaction.Encoding
import Wallet.Proofs.Transaction.RoundTrip

/-!
# Ids as references to leases

A lease is ended under the id of the transaction that made it. An id is the text of a digest, and
what ends a lease takes the text of any 32 bytes and keeps the bytes. So an id is accepted whatever
its digest is, leading zeros included, and it stands unchanged in both layouts and in the document
(`LeaseReference`).

The text of any other number of bytes is refused with that number, and a text that is not base58
with the fault of the text (`LeaseIdFault`). `references_lease` puts the two together.
-/

namespace Wallet

/-! ## §1. Texts -/

namespace Body

/-- What a text is refused for that is not the id of a lease. -/
inductive LeaseIdFault (text : String) : TransactionError → Prop where
  | undecodable {cause : Base58.Error} (refused : Base58.decode text = .error cause) :
      LeaseIdFault text (.decode (.base58 cause))
  | wrongLength {bytes : Bytes} (spells : Base58.Spells text bytes) (length : bytes.length ≠ 32) :
      LeaseIdFault text (.invalidLeaseId bytes.length)

theorem newCancelLease_of_length {text : String} {bytes : Bytes}
    (hspells : Base58.Spells text bytes) (hlength : bytes.length ≠ 32) :
    newCancelLease text = .error (.invalidLeaseId bytes.length) := by
  have hdecode : Base58.decode text = .ok bytes := Base58.decode_eq_ok_iff_spells.mpr hspells
  have hlist : Octets.ofList? 32 bytes = none := dif_neg hlength
  simp only [newCancelLease, TransactionError.decodeBase58, hdecode, hlist]

/-- A text is accepted exactly if it spells 32 bytes. -/
theorem newCancelLease_iff (text : String) :
    ((∃ body, newCancelLease text = .ok body) ↔
        ∃ bytes, bytes.length = 32 ∧ Base58.Spells text bytes) ∧
      ∀ e, newCancelLease text = .error e ↔ LeaseIdFault text e := by
  -- A text spells nothing, or 32 bytes, or another number of them.
  have htotal : (∃ bytes, bytes.length = 32 ∧ Base58.Spells text bytes) ∨
      ∃ e, LeaseIdFault text e := by
    cases hdecode : Base58.decode text with
    | error cause => exact .inr ⟨_, .undecodable hdecode⟩
    | ok bytes =>
      have hspells : Base58.Spells text bytes := Base58.decode_eq_ok_iff_spells.mp hdecode
      by_cases hlength : bytes.length = 32
      · exact .inl ⟨bytes, hlength, hspells⟩
      · exact .inr ⟨_, .wrongLength hspells hlength⟩
  apply outcome_iff htotal
  · rintro ⟨bytes, hlength, hspells⟩
    have htext : text = Base58.encode bytes :=
      Base58.decode_eq_ok_iff.mp (Base58.decode_eq_ok_iff_spells.mpr hspells)
    exact ⟨_, Transaction.newCancelLease_eq_ok_iff.mpr ⟨⟨bytes, hlength⟩, rfl, htext⟩⟩
  · intro e hfault
    cases hfault with
    | undecodable hrefused => simp only [newCancelLease, TransactionError.decodeBase58, hrefused]
    | wrongLength hspells hlength => exact newCancelLease_of_length hspells hlength

end Body

/-! ## §2. Bytes -/

namespace Layout

/-- Both layouts of a cancellation end with the id of the lease. -/
theorem exists_table_cancelLease (id : Octets 32) (version : Version) (e : Envelope) :
    ∃ front, table (.cancelLease id) version e = front ++ [.leaseId id] := by
  unfold table
  by_cases hversion : version = .v3
  · rw [if_pos hversion]
    exact ⟨[_, _, .byte e.chain, .number64 e.timestamp, .key e.sender, .number64 e.fee], rfl⟩
  · rw [if_neg hversion]
    exact ⟨[_, _, .byte e.chain, .bareKey e.sender, .number64 e.fee, .number64 e.timestamp], rfl⟩

theorem drop_encode_cancelLease {id : Octets 32} {version : Version} {e : Envelope} {b : Bytes}
    (hencode : encode (.cancelLease id) version e = .ok b) : b.drop (b.length - 32) = id.list := by
  obtain ⟨-, -, -, hrender⟩ := encode_eq_ok_iff.mp hencode
  obtain ⟨front, htable⟩ := exists_table_cancelLease id version e
  have hbytes : b = render front ++ id.list := by
    rw [← hrender, htable]
    simp [render, Field.bytes]
  have hlength : b.length - 32 = (render front).length := by
    rw [hbytes, List.length_append, id.length_eq, Nat.add_sub_cancel]
  rw [hlength, hbytes, List.drop_left]

end Layout

namespace Transaction

variable {tx : Transaction} {id : Octets 32} {sender : Signer} {version : Version}

theorem drop_encodeAs {b : Bytes} (hbody : tx.body = .cancelLease id)
    (hencode : tx.encodeAs version = .ok b) : b.drop (b.length - 32) = id.list := by
  unfold encodeAs at hencode
  split at hencode
  · rw [encodeFor, hbody] at hencode
    exact Layout.drop_encode_cancelLease hencode
  · cases hencode

/-- Nothing in a cancellation is too long, so only the scheme of the sender matters. -/
theorem hasBytes_cancelLease_iff : HasBytes (.cancelLease id) (some sender) version ↔
    version = .v3 ∨ version = .v2 ∧ sender.publicKey.keyType = .ed25519 := by
  constructor
  · intro hbytes
    have hsupported := hbytes.supported
    rcases hbytes.scheme with hcurrent | hscheme
    · exact .inl hcurrent
    · cases version with
      | v1 => cases hsupported
      | v2 => exact .inr ⟨rfl, hscheme sender rfl⟩
      | v3 => exact .inl rfl
  · intro hversion
    -- The kind has both layouts, it has no expiry, and no part of it has a length.
    have hsupported : (Body.cancelLease id).kind.supports version = true := by
      rcases hversion with rfl | ⟨rfl, -⟩ <;> rfl
    have hexpires : ¬ ((Body.cancelLease id).Expires ∧ version ≠ .v3) := by
      rintro ⟨⟨_, _, _, _, hassociation⟩, -⟩
      cases hassociation
    have hscheme : version = .v3 ∨ ∀ s ∈ some sender, s.publicKey.keyType = .ed25519 := by
      rcases hversion with hcurrent | ⟨-, hscheme⟩
      · exact .inl hcurrent
      · exact .inr fun s hs => Option.some.inj hs ▸ hscheme
    exact ⟨rfl, hsupported, hexpires, hscheme, fun field length hsized => by cases hsized⟩

/-- A cancellation has bytes in the current layout, and in the older one for the one scheme that it
has room for. -/
theorem exists_encodeAs_iff (hbody : tx.body = .cancelLease id)
    (hsender : tx.sender? = some sender) :
    (∃ b, tx.encodeAs version = .ok b) ↔
      version = .v3 ∨ version = .v2 ∧ sender.publicKey.keyType = .ed25519 := by
  have hwellFormed : tx.body.WellFormed := by
    rw [hbody]
    trivial
  rw [(encodeAs_iff hwellFormed version).1, hbody, hsender, hasBytes_cancelLease_iff]

/-! ## §3. Documents -/

theorem get?_leaseId (hbody : tx.body = .cancelLease id) :
    tx.toJson.get? "leaseId" = some (.string (Base58.encode id.list)) := by
  have hmem : ("leaseId", Json.string (Base58.encode id.list)) ∈ tx.fields := by
    simp [fields, hbody, bodyFields, base58Json]
  have hget : tx.toJson.get? "leaseId" = Json.field? (Json.collected tx.fields) "leaseId" := rfl
  rw [hget, field?_collected_fields, Json.field?_eq_some tx.nodup_names_fields hmem]

/-- A document that gives an id and is read as a cancellation is one of that lease. -/
theorem Read.body_of_leaseId {fields : Fields} {text : String} (hread : Read fields tx)
    (hkind : tx.kind = .cancelLease)
    (hfield : optional fields "leaseId" = some (.string text)) :
    Body.newCancelLease text = .ok tx.body := by
  have hbody := hread.body
  rw [hkind, readBody, stringField_of_optional hfield] at hbody
  exact hbody

/-! ## §4. Cancellations -/

theorem choice_cases {choice : Option Version} (hchoice : choice ≠ some .v1) :
    choice = none ∨ choice = some .v2 ∨ choice = some .v3 := by
  cases choice with
  | none => exact .inl rfl
  | some version =>
    cases version with
    | v1 => exact absurd rfl hchoice
    | v2 => exact .inr (.inl rfl)
    | v3 => exact .inr (.inr rfl)

/-- The cancellation that is made with the given options. -/
def cancellation (id : Octets 32) (options : Options) : Transaction :=
  ⟨.cancelLease id, options.version.getD .v3, options.fee.getD Kind.cancelLease.defaultFee,
    options.timestamp, .unsigned⟩

/-- A cancellation can be made in any layout but the first. -/
theorem create_cancelLease (id : Octets 32) {options : Options}
    (hversion : options.version ≠ some .v1) :
    create (.cancelLease id) options = .ok (cancellation id options) := by
  obtain ⟨choice, fee, time⟩ := options
  rcases choice_cases hversion with rfl | rfl | rfl <;> rfl

/-- It can be signed by any account that holds its key pair, in the current layout or, under the one
scheme that it has room for, in the older one. -/
theorem exists_signed_cancelLease {options : Options} {account : Account} {pair : KeyPair}
    (hversion : options.version ≠ some .v1) (hpair : account.keyPair = some pair)
    (hscheme : options.version = some .v2 → account.keyType = .ed25519) (now : UInt64) :
    ∃ draft signed b, create (.cancelLease id) options = .ok draft ∧
      draft.sign account now = .ok signed ∧ signed.body = .cancelLease id ∧
      signed.version = options.version.getD .v3 ∧ signed.encode = .ok b := by
  have hbytes : HasBytes (.cancelLease id) (some account.signer) (options.version.getD .v3) := by
    rw [hasBytes_cancelLease_iff]
    rcases choice_cases hversion with hchoice | hchoice | hchoice
    · exact .inl (by rw [hchoice]; rfl)
    · exact .inr ⟨by rw [hchoice]; rfl, hscheme hchoice⟩
    · exact .inl (by rw [hchoice]; rfl)
  -- The bytes are those of the draft once the time is fixed.
  obtain ⟨b, hencode⟩ : ∃ b, { cancellation id options with
      timestamp := some (options.timestamp.getD now) }.encodeFor account.signer
        (options.version.getD .v3) = .ok b := by
    apply encodeFor_of_hasBytes
    · trivial
    · exact hbytes
  have hsigns : Signs (cancellation id options) (.sign account now) _ :=
    .first rfl hpair hencode
  exact ⟨_, _, b, create_cancelLease id hversion, hsigns.act_eq_ok, rfl, rfl, hencode⟩

/-- A text is the reference to a lease with a given digest. -/
structure LeaseReference (text : String) (digest : Octets 32) : Prop where
  accepted : Body.newCancelLease text = .ok (.cancelLease digest)
  rendered : Base58.encode digest.list = text
  spells : Base58.Spells text digest.list
  /-- A cancellation of the lease can be made and signed. -/
  signed : ∀ (options : Options) (account : Account) (pair : KeyPair) (now : UInt64),
    options.version ≠ some .v1 → account.keyPair = some pair →
    (options.version = some .v2 → account.keyType = .ed25519) →
      ∃ draft signed b, create (.cancelLease digest) options = .ok draft ∧
        draft.sign account now = .ok signed ∧ signed.body = .cancelLease digest ∧
        signed.version = options.version.getD .v3 ∧ signed.encode = .ok b
  /-- Once it has a sender it has bytes in the current layout, and for an Ed25519 key in the older
  one too. -/
  encodes : ∀ (tx : Transaction) (sender : Signer) (version : Version),
    tx.body = .cancelLease digest → tx.sender? = some sender →
      ((∃ b, tx.encodeAs version = .ok b) ↔
        version = .v3 ∨ version = .v2 ∧ sender.publicKey.keyType = .ed25519)
  /-- In either layout it ends with the digest. -/
  bytes : ∀ (tx : Transaction) (version : Version) (b : Bytes), tx.body = .cancelLease digest →
    tx.encodeAs version = .ok b → b.drop (b.length - 32) = digest.list
  /-- Its document gives the text. -/
  document : ∀ tx : Transaction, tx.body = .cancelLease digest →
    tx.toJson.get? "leaseId" = some (.string text)
  /-- Whatever document gives the text, the lease that is cancelled is this one. -/
  read : ∀ (fields : Fields) (tx : Transaction), ofJson (.object fields) = .ok tx →
    tx.kind = .cancelLease → optional fields "leaseId" = some (.string text) →
      tx.body = .cancelLease digest
  /-- So the document of a cancellation is read back as that cancellation. -/
  readBack : ∀ tx : Transaction, tx.Reachable → tx.body = .cancelLease digest →
    ofJson tx.toJson = .ok tx

/-- Every digest is referred to by its text. -/
theorem leaseReference_encode (digest : Octets 32) :
    LeaseReference (Base58.encode digest.list) digest := by
  have haccepted : Body.newCancelLease (Base58.encode digest.list) = .ok (.cancelLease digest) :=
    newCancelLease_eq_ok_iff.mpr ⟨digest, rfl, rfl⟩
  constructor
  case accepted => exact haccepted
  case rendered => rfl
  case spells => exact Base58.spells_encode digest.list
  case signed =>
    intro options account pair now hversion hpair hscheme
    exact exists_signed_cancelLease hversion hpair hscheme now
  case encodes => exact fun tx sender version hbody hsender => exists_encodeAs_iff hbody hsender
  case bytes => exact fun tx version b hbody hencode => drop_encodeAs hbody hencode
  case document => exact fun tx hbody => get?_leaseId hbody
  case read =>
    intro fields tx hread hkind hfield
    obtain ⟨fields', hobject, hfields⟩ := ofJson_eq_ok_iff.mp hread
    obtain rfl : fields = fields' := Option.some.inj hobject
    -- The field decides the body, and the text was shown to stand for this digest.
    have hbody := hfields.body_of_leaseId hkind hfield
    rw [haccepted] at hbody
    exact (Except.ok.inj hbody).symm
  case readBack =>
    intro tx hreach _
    exact ofJson_eq_ok_iff.mpr ⟨_, rfl, hreach.read_fields⟩

/-- What the id of a transaction with given bytes is good for, and which texts are ids at all. -/
structure LeaseReferences (tx : Transaction) (bytes : Bytes) : Prop where
  id : ∃ text, tx.id = .ok text ∧ LeaseReference text (Hash.blake2b256 bytes)
  accepted : ∀ text, (∃ body, Body.newCancelLease text = .ok body) ↔
    ∃ bytes, bytes.length = 32 ∧ Base58.Spells text bytes
  refused : ∀ text e, Body.newCancelLease text = .error e ↔ Body.LeaseIdFault text e

/-- **The id of a transaction refers to a lease**, whatever its digest is. -/
theorem references_lease {bytes : Bytes} (hencode : tx.encode = .ok bytes) :
    LeaseReferences tx bytes where
  id := ⟨_, id_of_encode hencode, leaseReference_encode _⟩
  accepted text := (Body.newCancelLease_iff text).1
  refused text := (Body.newCancelLease_iff text).2

/-! ### An example

A lease whose digest starts with a zero, so that its id starts with a one. -/

namespace Example

def leaseDraft : Transaction :=
  ⟨.lease sponsor.address 266, .v3, 100000000, none, .unsigned⟩

end Example

/-- The lease of the example is cancelled under its id. -/
theorem references_lease_example : ∃ tx bytes,
    Example.leaseDraft.sign Example.sender 1000 = .ok tx ∧ tx.encode = .ok bytes ∧
    (Hash.blake2b256 bytes).list.head? = some 0 ∧
    LeaseReferences tx bytes := by
  obtain ⟨tx, hsign, hencode⟩ : ∃ tx, Example.leaseDraft.sign Example.sender 1000 = .ok tx ∧
      tx.encode = { Example.leaseDraft with timestamp := some 1000 }.encodeFor
        Example.sender.signer .v3 := ⟨_, rfl, rfl⟩
  have hzero : (({ Example.leaseDraft with timestamp := some 1000 }.encodeFor
      Example.sender.signer .v3).toOption.bind fun bytes =>
        (Hash.blake2b256 bytes).list.head?) = some 0 := by
    decide +kernel
  rw [← hencode] at hzero
  cases hbytes : tx.encode with
  | error e =>
    rw [hbytes] at hzero
    cases hzero
  | ok bytes =>
    rw [hbytes] at hzero
    exact ⟨tx, bytes, hsign, hbytes, hzero, references_lease hbytes⟩

end Transaction

end Wallet
