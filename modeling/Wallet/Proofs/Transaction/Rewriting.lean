import Wallet.Proofs.Account.Routes
import Wallet.Proofs.Transaction.RoundTrip

/-!
# Documents written again

A document that was read as a transaction can be written again from the transaction. What it says
is not changed on the way. `Kept` lists everything that may become of a field: most fields are
written as they were given, a few may be left out of a document and are then supplied, and the
values that stand for nothing are dropped.

The reason is that every reader accepts one form of a value only: numbers are never cut off, and
each text is the one that is written for what was read from it.
-/

namespace Wallet.Transaction

/-! ## §1. What may become of a field -/

/-- The entries of a mass transfer are written with recipient and amount as given, and without
anything else that was given. -/
def SameEntry (given written : Json) : Prop :=
  ∃ fields recipient amount, given = .object fields ∧
    optional fields "recipient" = some recipient ∧ optional fields "amount" = some amount ∧
      written = .ofFields [("recipient", recipient), ("amount", amount)]

/-- What became of a field of the document `given`, which was read as `tx`: the value that was
given under its name, if any, and the value that is written. -/
inductive Kept (tx : Transaction) (given : Fields) (name : String) :
    Option Json → Option Json → Prop where
  /-- A value is written as it was given. -/
  | same (value : Json) : Kept tx given name (some value) (some value)
  | absent : Kept tx given name none none
  /-- A script without the marker gets it. -/
  | marked {text : String} (isScript : name = "script")
      (unmarked : ¬ "base64:".toList <+: text.toList) :
      Kept tx given name (some (.string text)) (some (.string ("base64:" ++ text)))
  /-- The entries of a mass transfer are the same up to fields that are not read. -/
  | entries {read written : List Json} (isTransfers : name = "transfers")
      (same : List.Forall₂ SameEntry read written) :
      Kept tx given name (some (.array read)) (some (.array written))
  /-- A party without a scheme has the first one. -/
  | keyType (role : Role) (isKeyType : name = role.typeField) :
      Kept tx given name none (some (.string "ed25519"))
  /-- A sponsor without an address has that of its key on the chain of the sender. -/
  | sponsor {sender sponsor : Signer} (isSponsor : name = "sponsor")
      (hasSender : tx.sender? = some sender) (hasSponsor : tx.sponsor? = some sponsor)
      (derived : Address.ofPublicKey sponsor.publicKey sender.address.chainId =
        .ok sponsor.address) :
      Kept tx given name none (some (.string sponsor.address.toText))
  | attachment (isAttachment : name = "attachment") :
      Kept tx given name none (some (.string ""))
  | proofs (isProofs : name = "proofs") : Kept tx given name none (some (.array []))
  /-- An expiry of zero is none. -/
  | noExpiry (isExpires : name = "expires") : Kept tx given name (some (.natural 0)) none
  /-- An empty hash is none. -/
  | noHash (isHash : name = "hash") : Kept tx given name (some (.string "")) none
  /-- A scheme without a key says nothing. -/
  | noKey (role : Role) (isKeyType : name = role.typeField)
      (unused : optional given role.keyField = none) (value : Json) :
      Kept tx given name (some value) none
  /-- Other fields are not read. -/
  | unread (notRead : name ∉ readNames tx.kind) (value : Json) :
      Kept tx given name (some value) none

/-! ## §2. Single fields -/

section Fields

variable {tx : Transaction} {given : Fields} {name : String}

/-- What is found under a name is written again. -/
theorem kept_same (value : Option Json) : Kept tx given name value value := by
  cases value with
  | none => exact .absent
  | some v => exact .same v

theorem kept_of_eq {written : Option Json} (heq : optional given name = written) :
    Kept tx given name (optional given name) written := by
  rw [heq]
  exact kept_same written

theorem kept_recipient {recipient : Address}
    (hread : addressField given "recipient" = .ok recipient) :
    Kept tx given "recipient" (optional given "recipient") (some (.string recipient.toText)) :=
  kept_of_eq (optional_of_addressField hread)

/-- An amount is read with a sign and written without one. -/
theorem kept_amount {amount : Int64} {n : UInt64} (hread : signedField given "amount" = .ok amount)
    (hpositive : Body.positive amount = .ok n) :
    Kept tx given "amount" (optional given "amount") (some (.natural n.toNat)) := by
  apply kept_of_eq
  rw [optional_of_signedField hread, Json.natural, (Body.toNat_of_positive hpositive).2,
    Json.integer]

theorem kept_associationType {type : Int32}
    (hread : int32Field given "associationType" = .ok type) :
    Kept tx given "associationType" (optional given "associationType")
      (some (.integer type.toInt)) :=
  kept_of_eq (optional_of_int32Field hread)

theorem encode_nil : Base58.encode [] = "" := rfl

/-- An attachment that is missing is written as an empty one. -/
theorem kept_attachment {bytes : Bytes} (hread : bytesField given "attachment" = .ok bytes) :
    Kept tx given "attachment" (optional given "attachment") (some (base58Json bytes)) := by
  rcases optional_of_bytesField hread with hgiven | ⟨hnone, rfl⟩
  · exact kept_of_eq hgiven
  · rw [hnone, base58Json, encode_nil]
    exact .attachment rfl

/-- An empty hash is dropped, and a missing one stays missing. -/
theorem kept_hash {bytes : Bytes} (hread : bytesField given "hash" = .ok bytes) :
    Kept tx given "hash" (optional given "hash")
      ((Body.nonEmpty (some bytes)).map base58Json) := by
  rcases optional_of_bytesField hread with hgiven | ⟨hnone, rfl⟩
  · rw [hgiven]
    cases bytes with
    | nil => exact .noHash rfl
    | cons byte rest => exact .same _
  · rw [hnone]
    exact .absent

/-- An expiry of zero is dropped, and any other one kept. -/
theorem kept_expires {time : Option UInt64}
    (hread : optionalUnsigned given "expires" = .ok time) :
    Kept tx given "expires" (optional given "expires")
      ((Body.nonZero time).map fun time => .natural time.toNat) := by
  rw [optional_of_optionalUnsigned hread]
  unfold Body.nonZero
  split
  · exact .noExpiry rfl
  · exact kept_same _

/-- A script gets the marker that it may be given without. -/
theorem kept_script {text : String} {script : Bytes}
    (hgiven : optional given "script" = some (.string text))
    (hread : Script.ofText text = .ok script) :
    Kept tx given "script" (optional given "script") (some (.string (Script.toText script))) := by
  rw [hgiven]
  -- A text that is read as the script is one of the two that it has.
  rcases Script.ofText_eq_ok_iff.mp hread with rfl | rfl
  · exact .marked rfl (Script.not_marked_encode script)
  · exact .same _

/-- An entry that was read is written with the same recipient and amount. -/
theorem sameEntry_of_readEntry {json : Json} {entry : Entry} (hread : readEntry json = .ok entry) :
    SameEntry json (entryJson entry) := by
  simp only [readEntry, bind_eq_ok] at hread
  obtain ⟨fields, hfields, recipient, hrecipient, amount, hamount, hentry⟩ := hread
  cases hentry
  exact ⟨fields, _, _, Json.eq_object_of_asObject? (demand_eq_ok.mp hfields),
    optional_of_addressField hrecipient, optional_of_unsignedField hamount, rfl⟩

theorem kept_transfers {items : List Json} {entries : List Entry}
    (hgiven : optional given "transfers" = some (.array items))
    (hread : items.mapM readEntry = .ok entries) :
    Kept tx given "transfers" (optional given "transfers")
      (some (.array (entries.map entryJson))) := by
  rw [hgiven]
  refine .entries rfl ?_
  rw [List.forall₂_map_right_iff]
  exact (forall₂_of_mapM hread).imp fun _ _ => sameEntry_of_readEntry

theorem kept_leaseId {text : String} {body : Body} {version : Version}
    (hgiven : stringField given "leaseId" = .ok text)
    (hread : Body.newCancelLease text = .ok body) :
    Kept tx given "leaseId" (optional given "leaseId")
      (optional (bodyFields version body) "leaseId") := by
  obtain ⟨id, rfl, rfl⟩ := newCancelLease_eq_ok_iff.mp hread
  apply kept_of_eq
  rw [optional_of_stringField hgiven]
  simp [bodyFields, base58Json]

theorem kept_anchors {text : String} {hash : Bytes}
    (hgiven : optional given "anchors" = some (.array [.string text]))
    (hread : TransactionError.decodeBase58 text = .ok hash) :
    Kept tx given "anchors" (optional given "anchors") (some (.array [base58Json hash])) := by
  apply kept_of_eq
  rw [hgiven, base58Json, encode_of_decodeBase58 hread]

end Fields

/-! ## §3. Bodies -/

/-- Every field of a body is kept. -/
theorem kept_body {tx : Transaction} {given : Fields} {kind : Kind} {body : Body}
    {version : Version} (hread : readBody given kind = .ok body)
    (hfits : body.fits version = true) :
    ∀ name ∈ bodyNames kind,
      Kept tx given name (optional given name) (optional (bodyFields version body) name) := by
  -- Every kind reads its fields one after the other, and each of them is kept for its own reason.
  cases kind with
  | transfer =>
    simp only [readBody, bind_eq_ok] at hread
    obtain ⟨recipient, hrecipient, amount, hamount, attachment, hattachment, hbody⟩ := hread
    unfold Body.newTransfer at hbody
    split at hbody
    · next n hn =>
      cases hbody
      simp only [bodyNames, List.forall_mem_cons]
      refine ⟨?_, ?_, ?_, by simp⟩
      · simpa [bodyFields] using kept_recipient hrecipient
      · simpa [bodyFields] using kept_amount hamount hn
      · simpa [bodyFields] using kept_attachment hattachment
    · cases hbody
  | lease =>
    simp only [readBody, bind_eq_ok] at hread
    obtain ⟨recipient, hrecipient, amount, hamount, hbody⟩ := hread
    unfold Body.newLease at hbody
    split at hbody
    · next n hn =>
      cases hbody
      simp only [bodyNames, List.forall_mem_cons]
      refine ⟨?_, ?_, by simp⟩
      · simpa [bodyFields] using kept_recipient hrecipient
      · simpa [bodyFields] using kept_amount hamount hn
    · cases hbody
  | cancelLease =>
    simp only [readBody, bind_eq_ok] at hread
    obtain ⟨text, htext, hbody⟩ := hread
    simp only [bodyNames, List.forall_mem_cons]
    exact ⟨kept_leaseId htext hbody, by simp⟩
  | massTransfer =>
    simp only [readBody, bind_eq_ok] at hread
    obtain ⟨items, hitems, entries, hentries, attachment, hattachment, hbody⟩ := hread
    obtain ⟨-, rfl⟩ := Body.newMassTransfer_eq_ok_iff.mp hbody
    simp only [bodyNames, List.forall_mem_cons]
    refine ⟨?_, ?_, by simp⟩
    · simpa [bodyFields] using kept_transfers (optional_of_arrayField hitems) hentries
    · simpa [bodyFields] using kept_attachment hattachment
  | setScript =>
    simp only [readBody, bind_eq_ok] at hread
    obtain ⟨text, htext, hbody⟩ := hread
    obtain ⟨script, rfl, hscript⟩ := Body.newSetScript_eq_ok_iff.mp hbody
    simp only [bodyNames, List.forall_mem_cons]
    refine ⟨?_, by simp⟩
    simpa [bodyFields] using kept_script (optional_of_stringField htext) hscript
  | anchor =>
    simp only [readBody, bind_eq_ok] at hread
    obtain ⟨anchors, hanchors, hbody⟩ := hread
    split at hbody
    · next anchor =>
      simp only [bind_eq_ok] at hbody
      obtain ⟨text, htext, hash, hhash, hbody⟩ := hbody
      cases hbody
      obtain rfl := Json.eq_string_of_asString? (demand_eq_ok.mp htext)
      simp only [bodyNames, List.forall_mem_cons]
      refine ⟨?_, by simp⟩
      simpa [bodyFields] using kept_anchors (optional_of_arrayField hanchors) hhash
    · cases hbody
  | association =>
    simp only [readBody, bind_eq_ok] at hread
    obtain ⟨expires, hexpires, recipient, hrecipient, type, htype, hash, hhash, hbody⟩ := hread
    cases hbody
    rw [Body.assumedAssociation] at hfits ⊢
    -- The layout that was read has room for an expiry, or there is none.
    rw [bodyFields_association hfits]
    simp only [bodyNames, List.forall_mem_cons]
    refine ⟨?_, ?_, ?_, ?_, by simp⟩
    · rw [optional_recipient_associationFields]
      exact kept_recipient hrecipient
    · rw [optional_type_associationFields]
      exact kept_associationType htype
    · rw [optional_hash_associationFields _ _ _ (optional_hash_expires _)]
      exact kept_hash hhash
    · rw [optional_expires_associationFields, optional_expires_expires]
      exact kept_expires hexpires
  | revokeAssociation =>
    simp only [readBody, bind_eq_ok] at hread
    obtain ⟨recipient, hrecipient, type, htype, hash, hhash, hbody⟩ := hread
    cases hbody
    rw [Body.newRevokeAssociation, bodyFields, ← List.append_nil (associationFields _ _ _)]
    simp only [bodyNames, List.forall_mem_cons]
    refine ⟨?_, ?_, ?_, by simp⟩
    · rw [optional_recipient_associationFields]
      exact kept_recipient hrecipient
    · rw [optional_type_associationFields]
      exact kept_associationType htype
    · rw [optional_hash_associationFields _ _ _ (optional_nil "hash")]
      exact kept_hash hhash
  | sponsorship =>
    simp only [readBody, bind_eq_ok] at hread
    obtain ⟨recipient, hrecipient, hbody⟩ := hread
    cases hbody
    simp only [bodyNames, List.forall_mem_cons]
    refine ⟨?_, by simp⟩
    simpa [bodyFields] using kept_recipient hrecipient
  | cancelSponsorship =>
    simp only [readBody, bind_eq_ok] at hread
    obtain ⟨recipient, hrecipient, hbody⟩ := hread
    cases hbody
    simp only [bodyNames, List.forall_mem_cons]
    refine ⟨?_, by simp⟩
    simpa [bodyFields] using kept_recipient hrecipient

/-! ## §4. Parties and proofs -/

section Parties

variable {tx : Transaction} {given : Fields} {role : Role} {chain : Option Char}

/-- The fields of a party say what was read from them. -/
theorem readKnownSigner_eq_ok {keyJson : Json} {signer : Signer}
    (hread : readKnownSigner given role chain keyJson = .ok signer) :
    keyJson = .string signer.publicKey.toBase58 ∧
      readKeyType given role = .ok signer.publicKey.keyType ∧
      readAddress given role chain signer.publicKey = .ok signer.address := by
  simp only [readKnownSigner, bind_eq_ok] at hread
  obtain ⟨text, htext, keyType, htype, key, hkey, address, haddress, hread⟩ := hread
  split at hread
  · cases hread
    obtain ⟨rfl, rfl⟩ := PublicKey.toBase58_of_ofBase58 (liftKey_eq_ok.mp hkey)
    exact ⟨Json.eq_string_of_asString? (demand_eq_ok.mp htext), htype, haddress⟩
  · cases hread

/-- A scheme is written by its name, and a missing one as the first. -/
theorem kept_keyType {keyType : KeyType} (hread : readKeyType given role = .ok keyType) :
    Kept tx given role.typeField (optional given role.typeField)
      (some (.string keyType.name)) := by
  unfold readKeyType at hread
  split at hread
  · next hnone =>
    cases hread
    rw [hnone]
    exact .keyType role rfl
  · obtain ⟨name, hname, htype⟩ := bind_eq_ok.mp hread
    apply kept_of_eq
    rw [optional_of_stringField hname, KeyType.name_of_ofName (liftKey_eq_ok.mp htype)]

/-- An address that is missing may be computed on a chain. -/
theorem kept_address {key : PublicKey} {address : Address}
    (hread : readAddress given role chain key = .ok address)
    (hderived : ∀ c, chain = some c → Address.ofPublicKey key c = .ok address →
      Kept tx given role.field none (some (.string address.toText))) :
    Kept tx given role.field (optional given role.field) (some (.string address.toText)) := by
  unfold readAddress at hread
  split at hread
  · exact kept_of_eq (optional_of_addressField hread)
  · -- It is missing, and there is a chain to compute it on.
    next hnone =>
    rw [hnone]
    exact hderived _ rfl (liftAddress_eq_ok.mp hread)
  · cases hread

/-- The fields of a party are kept, provided that its address may be left out. -/
theorem kept_signer {signer : Option Signer} (hread : readSigner given role chain = .ok signer)
    (hderived : ∀ s c, signer = some s → chain = some c →
      Address.ofPublicKey s.publicKey c = .ok s.address →
        Kept tx given role.field none (some (.string s.address.toText))) :
    ∀ name ∈ signerNames role,
      Kept tx given name (optional given name) (optional (optionalSigner role signer) name) := by
  unfold readSigner at hread
  simp only [signerNames, List.forall_mem_cons]
  -- A party has a key, or it says nothing at all.
  split at hread
  · next keyJson hkey =>
    obtain ⟨s, hknown, hsigner⟩ := bind_eq_ok.mp hread
    cases hsigner
    obtain ⟨rfl, htype, haddress⟩ := readKnownSigner_eq_ok hknown
    obtain ⟨hfieldType, hfieldKey, htypeKey⟩ := fieldNames_ne role
    rw [optionalSigner, signerFields]
    refine ⟨?_, ?_, ?_, by simp⟩
    · simpa using kept_address haddress fun c hchain => hderived s c rfl hchain
    · simpa [hfieldType] using kept_keyType htype
    · simpa [hfieldKey, htypeKey] using kept_of_eq hkey
  · next hkey =>
    split at hread
    · cases hread
    · next hfield =>
      cases hread
      rw [optionalSigner]
      refine ⟨kept_of_eq hfield, ?_, kept_of_eq hkey, by simp⟩
      -- Without a key the scheme is not looked at.
      cases htype : optional given role.typeField with
      | none => exact .absent
      | some value => exact .noKey role rfl hkey value

theorem eq_string_of_readProof {item : Json} {proof : Signature}
    (hread : readProof item = .ok proof) : item = .string proof.toBase58 := by
  obtain ⟨text, htext, hproof⟩ := bind_eq_ok.mp hread
  rw [Json.eq_string_of_asString? (demand_eq_ok.mp htext),
    Signature.toBase58_of_ofBase58 (liftKey_eq_ok.mp hproof)]

/-- Proofs are written in their order, and missing ones as none. -/
theorem kept_proofs {proofs : List Signature} (hread : readProofs given = .ok proofs) :
    Kept tx given "proofs" (optional given "proofs")
      (some (.array (proofs.map fun proof => .string proof.toBase58))) := by
  unfold readProofs at hread
  split at hread
  · next hnone =>
    cases hread
    rw [show optional given "proofs" = none from hnone]
    exact .proofs rfl
  · obtain ⟨items, hitems, hproofs⟩ := bind_eq_ok.mp hread
    have hsame : items = proofs.map fun proof => .string proof.toBase58 := by
      rw [← List.forall₂_eq_eq_eq, List.forall₂_map_right_iff]
      exact (forall₂_of_mapM hproofs).imp fun _ _ => eq_string_of_readProof
    rw [← hsame]
    exact kept_of_eq (optional_of_arrayField hitems)

end Parties

/-! ## §5. Documents -/

theorem toNat_of_byte? {n : UInt64} {byte : UInt8} (hbyte : byte? n = some byte) :
    byte.toNat = n.toNat := by
  unfold byte? at hbyte
  split at hbyte
  · next hlt =>
    cases hbyte
    rw [UInt64.lt_iff_toNat_lt] at hlt
    simpa using hlt
  · cases hbyte

/-- A type is read from the number of a kind and from no other. -/
theorem optional_of_readKind {given : Fields} {kind : Kind} (hread : readKind given = .ok kind) :
    optional given "type" = some (.natural kind.typeId.toNat) := by
  obtain ⟨id, hid, hkind⟩ := bind_eq_ok.mp hread
  split at hkind
  · next found hfound =>
    cases hkind
    obtain ⟨byte, hbyte, hkind⟩ := Option.bind_eq_some_iff.mp hfound
    have htype : kind.typeId = byte := by simpa using List.find?_some hkind
    rw [htype, toNat_of_byte? hbyte]
    exact optional_of_unsignedField hid
  · cases hkind

/-- A version is read from its number and from no other. -/
theorem optional_of_readVersion {given : Fields} {version : Version}
    (hread : readVersion given = .ok version) :
    optional given "version" = some (.natural version.number.toNat) := by
  obtain ⟨id, hid, hversion⟩ := bind_eq_ok.mp hread
  split at hversion
  · next found hfound =>
    cases hversion
    obtain ⟨byte, hbyte, hversion⟩ := Option.bind_eq_some_iff.mp hfound
    have hnumber : version.number = byte := by simpa using List.find?_some hversion
    rw [hnumber, toNat_of_byte? hbyte]
    exact optional_of_unsignedField hid
  · cases hversion

/-- Every part of a document that was read is kept. -/
theorem kept_part {given : Fields} {tx : Transaction} (hread : Read given tx) {part : Part}
    (hpart : part ∈ tx.parts) :
    ∀ name ∈ part.names,
      Kept tx given name (optional given name) (optional part.fields name) := by
  revert part
  simp only [parts, List.forall_mem_cons]
  refine ⟨?type, ?version, ?sender, ?fee, ?timestamp, ?body, ?sponsor, ?proofs, by simp⟩
  case type => simpa using kept_of_eq (optional_of_readKind hread.kind)
  case version => simpa using kept_of_eq (optional_of_readVersion hread.version)
  case sender =>
    refine kept_signer hread.sender ?_
    -- The address of the sender may not be left out.
    intro s c hsender hchain
    cases hchain
  case fee => simpa using kept_of_eq (optional_of_unsignedField hread.fee)
  case timestamp =>
    refine ⟨?_, by simp⟩
    rw [optional_optionalField (by cases tx.timestamp <;> simp)]
    exact kept_of_eq (optional_of_optionalUnsigned hread.timestamp)
  case body => exact kept_body hread.body hread.fits
  case sponsor =>
    refine kept_signer hread.sponsor ?_
    intro s c hsponsor hchain hderived
    -- The chain on which a missing address is computed is that of the sender.
    obtain ⟨sender, hsender, rfl⟩ := Option.map_eq_some_iff.mp hchain
    exact .sponsor rfl hsender hsponsor hderived
  case proofs => simpa using kept_proofs hread.proofs

/-- Optional fields of a body are written only with a value. -/
theorem isNull_of_mem_bodyFields {version : Version} {body : Body} :
    ∀ field ∈ bodyFields version body, field.2.isNull = false := by
  cases body with
  | association recipient type hash expires =>
    rw [bodyFields]
    split <;> cases hash <;> cases expires <;> simp [associationFields, Json.optionalField]
  | revokeAssociation recipient type hash =>
    cases hash <;> simp [bodyFields, associationFields, Json.optionalField]
  | _ => simp [bodyFields]

/-- Nothing is written as `null`. -/
theorem isNull_of_mem_fields {tx : Transaction} :
    ∀ field ∈ tx.fields, field.2.isNull = false := by
  have hsigner (role : Role) (signer : Option Signer) :
      ∀ field ∈ optionalSigner role signer, field.2.isNull = false := by
    cases signer <;> simp [optionalSigner, signerFields]
  have htimestamp : ∀ field ∈ Json.optionalField "timestamp"
      (tx.timestamp.map fun time => .natural time.toNat), field.2.isNull = false := by
    cases tx.timestamp <;> simp [Json.optionalField]
  simp only [fields, List.forall_mem_append]
  exact ⟨⟨⟨⟨⟨⟨by simp, hsigner _ _⟩, by simp⟩, htimestamp⟩, isNull_of_mem_bodyFields⟩,
    hsigner _ _⟩, by simp⟩

/-- A field that is written is there for every reader. -/
theorem optional_collected_fields (tx : Transaction) (name : String) :
    optional (Json.collected tx.fields) name = Json.field? (Json.collected tx.fields) name := by
  rw [optional, field?_collected_fields]
  cases hfield : Json.field? tx.fields name with
  | none => rfl
  | some value =>
    have hnull := isNull_of_mem_fields _ (Json.mem_of_field?_eq_some hfield)
    simp [hnull]

/-- Every field of a document that was read is kept. -/
theorem Read.kept {given : Fields} {tx : Transaction} (hread : Read given tx) (name : String) :
    Kept tx given name (optional given name) (Json.field? (Json.collected tx.fields) name) := by
  by_cases hname : name ∈ readNames tx.kind
  · rw [← names_parts] at hname
    obtain ⟨part, hpart, hmem⟩ := List.mem_flatMap.mp hname
    -- A name that is read belongs to one part, which keeps it.
    rw [← optional_collected_fields, agree_part tx hpart name hmem]
    exact kept_part hread hpart name hmem
  · -- No other name is written.
    have hwritten : Json.field? (Json.collected tx.fields) name = none := by
      rw [field?_collected_fields]
      exact Json.field?_eq_none fun hmem => hname ((names_fields tx).subset hmem)
    rw [hwritten]
    cases hgiven : optional given name with
    | none => exact .absent
    | some value => exact .unread hname value

/-- The type of an association is not cut off, nor is that of a withdrawal. -/
theorem optional_associationType {given : Fields} {body : Body} {recipient : Address}
    {type : Int32} {hash : Option Bytes} (hread : readBody given body.kind = .ok body)
    (hbody : (∃ expires, body = .association recipient type hash expires) ∨
      body = .revokeAssociation recipient type hash) :
    optional given "associationType" = some (.integer type.toInt) := by
  rcases hbody with ⟨expires, rfl⟩ | rfl
  · simp only [Body.kind, readBody, bind_eq_ok] at hread
    obtain ⟨time, -, address, -, found, hfound, bytes, -, hmade⟩ := hread
    cases hmade
    exact optional_of_int32Field hfound
  · simp only [Body.kind, readBody, bind_eq_ok] at hread
    obtain ⟨address, -, found, hfound, bytes, -, hmade⟩ := hread
    cases hmade
    exact optional_of_int32Field hfound

/-- **Reading a document changes nothing that it says.** Every field of a document that was read
as a transaction is written again as it was given, with the exceptions that `Kept` lists. The
numbers that are narrowed on the way, type, version and the type of an association, are those of
the document. -/
theorem kept_of_ofJson {document : Json} {tx : Transaction} (hread : ofJson document = .ok tx) :
    ∃ given written, document = .object given ∧ tx.toJson = .object written ∧
      (∀ name, Kept tx given name (optional given name) (Json.field? written name)) ∧
      optional given "type" = some (.natural tx.kind.typeId.toNat) ∧
      optional given "version" = some (.natural tx.version.number.toNat) ∧
      ∀ recipient type hash, (∃ expires, tx.body = .association recipient type hash expires) ∨
          tx.body = .revokeAssociation recipient type hash →
        optional given "associationType" = some (.integer type.toInt) := by
  obtain ⟨given, hgiven, hread⟩ := ofJson_eq_ok_iff.mp hread
  refine ⟨given, Json.collected tx.fields, Json.eq_object_of_asObject? hgiven, rfl, hread.kept,
    optional_of_readKind hread.kind, optional_of_readVersion hread.version, ?_⟩
  intro recipient type hash hbody
  exact optional_associationType hread.body hbody

/-! ### An example

A sponsored association as a node may return it: with an id, without schemes and without the
address of the sponsor, and with an expiry and a hash that stand for none. -/

def Example.document : Json :=
  .ofFields [("id", .string "7Kd"), ("type", .natural 16), ("version", .natural 3),
    ("fee", .natural 100000000), ("timestamp", .natural 1000),
    ("sender", .string sender.address.toText),
    ("senderPublicKey", .string sender.publicKey.toBase58),
    ("sponsorPublicKey", .string sponsor.publicKey.toBase58),
    ("recipient", .string sponsor.address.toText), ("associationType", .integer (-7)),
    ("hash", .string ""), ("expires", .natural 0),
    ("proofs", .array [.string (Signature.toBase58 ⟨Octets.ofNat 64 1⟩),
      .string (Signature.toBase58 ⟨Octets.ofNat 64 2⟩)])]

namespace Example

/-- What the document is read as. -/
def answer : Transaction :=
  ⟨.association sponsor.address (-7) none none, .v3, 100000000, some 1000,
    .sponsored sender.signer ⟨Octets.ofNat 64 1⟩ [] sponsor.signer ⟨Octets.ofNat 64 2⟩⟩

theorem ofJson_document : ofJson document = .ok answer := by
  -- Each field is read by the lemma for it. To run the reader would mean to compute both keys and
  -- every checksum.
  obtain ⟨fields, hobject⟩ : ∃ fields, document.asObject? = some fields := ⟨_, rfl⟩
  have hfield := optional_eq_get? hobject
  simp only [document, Json.ofFields, Json.get?, List.foldl_cons, List.foldl_nil,
    Json.field?_insertField] at hfield
  have hkeyType (role : Role) : readKeyType fields role = .ok .ed25519 := by
    cases role <;> simp [readKeyType, hfield, Role.typeField, Role.field]
  refine ofJson_eq_ok_iff.mpr ⟨fields, hobject, ?_⟩
  constructor
  case kind => exact readKind_of_optional (by simp [hfield]; rfl)
  case version => exact readVersion_of_optional (by simp [hfield]; rfl)
  case supported => rfl
  case body =>
    have hexpires : optionalUnsigned fields "expires" = .ok (some 0) :=
      optionalUnsigned_of_optional (by simp [hfield])
    have hrecipient : addressField fields "recipient" = .ok sponsor.address :=
      addressField_of_optional (by simp [hfield])
    have htype : int32Field fields "associationType" = .ok (-7) :=
      int32Field_of_optional (by simp [hfield])
    have hhash : bytesField fields "hash" = .ok [] :=
      bytesField_of_optional (by simp [hfield, base58Json, encode_nil])
    change readBody fields .association = _
    rw [readBody, hexpires, hrecipient, htype, hhash]
    rfl
  case fits => rfl
  case fee => exact unsignedField_of_optional (by simp [hfield]; rfl)
  case timestamp => exact optionalUnsigned_of_optional (by simp [hfield]; rfl)
  case sender =>
    have hgiven : optional fields Role.sender.field = some (.string sender.address.toText) := by
      simp [hfield, Role.field]
    refine readSigner_of_optional ?hkey ?hkeyType ?haddress ?hmatches ?hreadable
    case hkey => simp [hfield, Role.keyField, Role.field, Account.signer]
    case hkeyType => exact hkeyType .sender
    case haddress =>
      unfold readAddress
      rw [hgiven]
      exact addressField_of_optional hgiven
    case hmatches => exact sender.matchesKey_address
    case hreadable => exact KeyPair.readable_publicKey _
  case sponsor =>
    -- Its address is left out, but the sponsor is on the chain of the sender.
    have hnone : optional fields Role.sponsor.field = none := by simp [hfield, Role.field]
    have hchain : answer.chainId? = some Profile.standard.chainId :=
      congrArg some (Profile.standard.chainId_addressOf sender.publicKey)
    refine readSigner_of_optional ?hkey ?hkeyType ?haddress ?hmatches ?hreadable
    case hkey => simp [hfield, Role.keyField, Role.field, Account.signer]
    case hkeyType => exact hkeyType .sponsor
    case haddress =>
      unfold readAddress
      rw [hnone, hchain]
      exact liftAddress_eq_ok.mpr (Profile.standard.ofPublicKey_addressOf_chainId sponsor.publicKey)
    case hmatches => exact sponsor.matchesKey_address
    case hreadable => exact KeyPair.readable_publicKey _
  case proofs => exact readProofs_of_optional (by simp [hfield, Members.field]; rfl)

end Example

/-- What the example says is kept. -/
theorem kept_of_ofJson_example : ∃ tx, ofJson Example.document = .ok tx ∧
    ∃ given written, Example.document = .object given ∧ tx.toJson = .object written ∧
      (∀ name, Kept tx given name (optional given name) (Json.field? written name)) ∧
      optional given "type" = some (.natural tx.kind.typeId.toNat) ∧
      optional given "version" = some (.natural tx.version.number.toNat) := by
  obtain ⟨given, written, hgiven, hwritten, hkept, htype, hversion, -⟩ :=
    kept_of_ofJson Example.ofJson_document
  exact ⟨_, Example.ofJson_document, given, written, hgiven, hwritten, hkept, htype, hversion⟩

end Wallet.Transaction
