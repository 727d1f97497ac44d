import Wallet.Proofs.Transaction.Fields
import Wallet.Proofs.Transaction.Reachable

/-!
# Documents read back

A transaction is read back from its document as itself. The names of the fields of a document are
distinct, so each reader finds what the writer put under its name (`agree_part`); the rest is one
lemma for each part of a transaction.

Nothing is assumed of the transaction but that it is reachable. That is enough for its parts: its
body is well-formed and fits the layout, and the keys of its parties can be read.
-/

namespace Wallet.Transaction

/-! ## §1. The names of a document -/

theorem names_optionalField (name : String) (value : Option Json) :
    ((Json.optionalField name value).map Prod.fst).Sublist [name] := by
  cases value <;> simp [Json.optionalField]

theorem names_optionalSigner (role : Role) (signer : Option Signer) :
    ((optionalSigner role signer).map Prod.fst).Sublist (signerNames role) := by
  cases signer <;> simp [optionalSigner, signerFields, signerNames]

theorem names_associationFields (recipient : Address) (type : Int32) (hash : Option Bytes) :
    ((associationFields recipient type hash).map Prod.fst).Sublist
      ["recipient", "associationType", "hash"] := by
  rw [associationFields, List.map_append]
  exact (names_optionalField "hash" _).append_left ["recipient", "associationType"]

/-- The fields of a body are written in the order of their names, and some may be left out. -/
theorem names_bodyFields (version : Version) (body : Body) :
    ((bodyFields version body).map Prod.fst).Sublist (bodyNames body.kind) := by
  cases body with
  | association recipient type hash expires =>
    rw [bodyFields, List.map_append]
    refine List.Sublist.append (names_associationFields recipient type hash) ?_
    split
    · exact names_optionalField "expires" _
    · exact List.nil_sublist _
  | revokeAssociation recipient type hash => exact names_associationFields recipient type hash
  | _ => exact List.Sublist.refl _

/-! ## §2. Look-up in a document

A document consists of parts with names of their own. What a reader finds under the names of a
part is what that part alone says. -/

/-- What stands before a part and behind it is not found under the names of the part. -/
theorem agree_of_append {before part after : Fields} {b p a : List String}
    (hbefore : (before.map Prod.fst).Sublist b) (hpart : (part.map Prod.fst).Sublist p)
    (hafter : (after.map Prod.fst).Sublist a) (hnodup : (b ++ p ++ a).Nodup) :
    Agree (Json.collected (before ++ part ++ after)) part p := by
  have hnames : ((before ++ part ++ after).map Prod.fst).Nodup := by
    rw [List.map_append, List.map_append]
    exact ((hbefore.append hpart).append hafter).nodup hnodup
  intro name hname
  -- A name of the part is a name of no other part.
  rw [List.append_assoc, List.nodup_append, List.nodup_append] at hnodup
  obtain ⟨-, ⟨-, -, hlater⟩, hearlier⟩ := hnodup
  have hnotBefore : name ∉ before.map Prod.fst := fun hmem =>
    hearlier name (hbefore.subset hmem) name (List.mem_append_left _ hname) rfl
  have hnotAfter : name ∉ after.map Prod.fst := fun hmem =>
    hlater name hname name (hafter.subset hmem) rfl
  rw [optional, optional, Json.field?_collected hnames, Json.field?_append, Json.field?_append,
    Json.field?_eq_none hnotBefore, Json.field?_eq_none hnotAfter]
  simp

/-- A part of a document with the names it may use. -/
structure Part where
  names : List String
  fields : Fields
  names_fields : (fields.map Prod.fst).Sublist names

theorem names_flatMap (parts : List Part) :
    ((parts.flatMap Part.fields).map Prod.fst).Sublist (parts.flatMap Part.names) := by
  induction parts with
  | nil => exact List.nil_sublist _
  | cons part rest ih =>
    rw [List.flatMap_cons, List.flatMap_cons, List.map_append]
    exact part.names_fields.append ih

/-- In a document whose parts have names of their own, each part can be read by itself. -/
theorem agree_of_mem {parts : List Part} (hnodup : (parts.flatMap Part.names).Nodup)
    {part : Part} (hmem : part ∈ parts) :
    Agree (Json.collected (parts.flatMap Part.fields)) part.fields part.names := by
  obtain ⟨before, after, rfl⟩ := List.append_of_mem hmem
  rw [List.flatMap_append, List.flatMap_cons, ← List.append_assoc] at hnodup ⊢
  exact agree_of_append (names_flatMap before) part.names_fields (names_flatMap after) hnodup

/-- The parts of the document of a transaction, in the order in which they are written. -/
def parts (tx : Transaction) : List Part :=
  [⟨["type"], [("type", .natural tx.kind.typeId.toNat)], List.Sublist.refl _⟩,
    ⟨["version"], [("version", .natural tx.version.number.toNat)], List.Sublist.refl _⟩,
    ⟨signerNames .sender, optionalSigner .sender tx.sender?, names_optionalSigner ..⟩,
    ⟨["fee"], [("fee", .natural tx.fee.toNat)], List.Sublist.refl _⟩,
    ⟨["timestamp"],
      Json.optionalField "timestamp" (tx.timestamp.map fun time => .natural time.toNat),
      names_optionalField ..⟩,
    ⟨bodyNames tx.kind, bodyFields tx.version tx.body, names_bodyFields ..⟩,
    ⟨signerNames .sponsor, optionalSigner .sponsor tx.sponsor?, names_optionalSigner ..⟩,
    ⟨["proofs"], [("proofs", .array (tx.proofs.map fun proof => .string proof.toBase58))],
      List.Sublist.refl _⟩]

/-- A document is its parts in a row. -/
theorem fields_eq_flatMap_parts (tx : Transaction) : tx.fields = tx.parts.flatMap Part.fields := by
  simp [fields, parts]

/-- No name belongs to two parts. -/
theorem nodup_names_parts (tx : Transaction) : (tx.parts.flatMap Part.names).Nodup := by
  simp only [parts, List.flatMap_cons, List.flatMap_nil]
  -- The names depend on the kind alone, so ten cases decide.
  generalize tx.kind = kind
  cases kind <;> decide

/-- The names of the parts are those that are read. -/
theorem names_parts (tx : Transaction) : tx.parts.flatMap Part.names = readNames tx.kind := by
  simp [parts, readNames]

theorem names_fields (tx : Transaction) :
    (tx.fields.map Prod.fst).Sublist (readNames tx.kind) := by
  rw [fields_eq_flatMap_parts, ← names_parts]
  exact names_flatMap tx.parts

theorem nodup_names_fields (tx : Transaction) : (tx.fields.map Prod.fst).Nodup :=
  (names_fields tx).nodup (names_parts tx ▸ nodup_names_parts tx)

theorem field?_collected_fields (tx : Transaction) (name : String) :
    Json.field? (Json.collected tx.fields) name = Json.field? tx.fields name :=
  Json.field?_collected tx.nodup_names_fields name

/-- Each part of a document says what it said when it was written. -/
theorem agree_part (tx : Transaction) {part : Part} (hpart : part ∈ tx.parts) :
    Agree (Json.collected tx.fields) part.fields part.names := by
  rw [fields_eq_flatMap_parts]
  exact agree_of_mem tx.nodup_names_parts hpart

/-! ## §3. The parts are read -/

theorem fieldNames_ne (role : Role) :
    role.field ≠ role.typeField ∧ role.field ≠ role.keyField ∧ role.typeField ≠ role.keyField := by
  cases role <;> decide

/-- A party is read if its key stands there and its scheme and address are read as they are. -/
theorem readSigner_of_optional {fields : Fields} {role : Role} {chain : Option Char}
    {signer : Signer}
    (hkey : optional fields role.keyField = some (.string signer.publicKey.toBase58))
    (hkeyType : readKeyType fields role = .ok signer.publicKey.keyType)
    (haddress : readAddress fields role chain signer.publicKey = .ok signer.address)
    (hmatches : signer.address.matchesKey signer.publicKey = true)
    (hreadable : signer.publicKey.Readable) :
    readSigner fields role chain = .ok (some signer) := by
  simp [readSigner, hkey, readKnownSigner, Json.asString?, demand, hkeyType,
    hreadable.ofBase58_toBase58, TransactionError.liftKey, haddress, hmatches]

/-- A party is read as it was written, on whatever chain, if its address belongs to its key. -/
theorem readSigner_optionalSigner {role : Role} {chain : Option Char} {signer : Option Signer}
    (hsigner : ∀ s, signer = some s →
      s.address.matchesKey s.publicKey = true ∧ s.publicKey.Readable) :
    readSigner (optionalSigner role signer) role chain = .ok signer := by
  obtain ⟨htype, hkey, htypeKey⟩ := fieldNames_ne role
  cases signer with
  | none => rfl
  | some s =>
    obtain ⟨hmatches, hreadable⟩ := hsigner s rfl
    rw [optionalSigner]
    -- The three fields have different names, so each is found.
    have hoptField : optional (signerFields role s) role.field =
        some (.string s.address.toText) :=
      optional_of_field? (by simp [signerFields, Json.field?_cons]) rfl
    have hoptType : optional (signerFields role s) role.typeField =
        some (.string s.publicKey.keyType.name) :=
      optional_of_field? (by simp [signerFields, Json.field?_cons, htype]) rfl
    have hoptKey : optional (signerFields role s) role.keyField =
        some (.string s.publicKey.toBase58) :=
      optional_of_field? (by simp [signerFields, Json.field?_cons, hkey, htypeKey]) rfl
    have hreadType : readKeyType (signerFields role s) role = .ok s.publicKey.keyType := by
      rw [readKeyType, hoptType, stringField_of_optional hoptType]
      simp [TransactionError.liftKey]
    have hreadAddress : readAddress (signerFields role s) role chain s.publicKey =
        .ok s.address := by
      unfold readAddress
      rw [hoptField, addressField_of_optional hoptField]
    exact readSigner_of_optional hoptKey hreadType hreadAddress hmatches hreadable

theorem readEntry_entryJson (entry : Entry) : readEntry (entryJson entry) = .ok entry := by
  -- The two fields have different names, so each is found in the object.
  have hnames : (([("recipient", .string entry.recipient.toText),
      ("amount", .natural entry.amount.toNat)] : Fields).map Prod.fst).Nodup := by
    simp
  have hrecipient : addressField (Json.collected [("recipient", .string entry.recipient.toText),
      ("amount", .natural entry.amount.toNat)]) "recipient" = .ok entry.recipient := by
    apply addressField_of_optional
    rw [optional, Json.field?_collected hnames]
    simp [Json.field?_cons]
  have hamount : unsignedField (Json.collected [("recipient", .string entry.recipient.toText),
      ("amount", .natural entry.amount.toNat)]) "amount" = .ok entry.amount := by
    apply unsignedField_of_optional
    rw [optional, Json.field?_collected hnames]
    simp [Json.field?_cons]
  simp only [readEntry, entryJson, Json.asObject?_ofFields, demand, ok_bind, hrecipient, hamount]
  rfl

/-- A layout that fits leaves no expiry out. -/
theorem bodyFields_association {version : Version} {recipient : Address} {type : Int32}
    {hash : Option Bytes} {expires : Option UInt64}
    (hfits : (Body.association recipient type hash expires).fits version = true) :
    bodyFields version (.association recipient type hash expires) =
      associationFields recipient type hash ++
        Json.optionalField "expires" (expires.map fun time => .natural time.toNat) := by
  cases expires with
  | none => simp [bodyFields, Json.optionalField]
  | some time =>
    have hversion : version = .v3 := by simpa [Body.fits] using hfits
    rw [bodyFields, if_pos hversion]

section Association

variable (recipient : Address) (type : Int32) (hash : Option Bytes) {rest : Fields}

theorem optional_recipient_associationFields :
    optional (associationFields recipient type hash ++ rest) "recipient" =
      some (.string recipient.toText) := by
  cases hash <;> simp [associationFields, Json.optionalField]

theorem optional_type_associationFields :
    optional (associationFields recipient type hash ++ rest) "associationType" =
      some (.integer type.toInt) := by
  cases hash <;> simp [associationFields, Json.optionalField]

theorem optional_hash_associationFields (hrest : optional rest "hash" = none) :
    optional (associationFields recipient type hash ++ rest) "hash" = hash.map base58Json := by
  cases hash <;> simp [associationFields, Json.optionalField, hrest]

theorem optional_expires_associationFields :
    optional (associationFields recipient type hash ++ rest) "expires" =
      optional rest "expires" := by
  cases hash <;> simp [associationFields, Json.optionalField]

theorem addressField_associationFields :
    addressField (associationFields recipient type hash ++ rest) "recipient" = .ok recipient :=
  addressField_of_optional (optional_recipient_associationFields ..)

theorem int32Field_associationFields :
    int32Field (associationFields recipient type hash ++ rest) "associationType" = .ok type :=
  int32Field_of_optional (optional_type_associationFields ..)

theorem bytesField_associationFields (hrest : optional rest "hash" = none) :
    bytesField (associationFields recipient type hash ++ rest) "hash" = .ok (hash.getD []) :=
  bytesField_of_map (optional_hash_associationFields recipient type hash hrest)

end Association

theorem optional_hash_expires (expires : Option UInt64) :
    optional (Json.optionalField "expires" (expires.map fun time => .natural time.toNat)) "hash" =
      none := by
  cases expires <;> simp [Json.optionalField]

theorem optional_expires_expires (expires : Option UInt64) :
    optional (Json.optionalField "expires" (expires.map fun time => .natural time.toNat))
      "expires" = expires.map fun time => .natural time.toNat :=
  optional_optionalField (by cases expires <;> simp)

/-- An association is read as it was written. An empty hash and an expiry of zero would be lost, and
a well-formed one has neither. -/
theorem readBody_association {version : Version} {recipient : Address} {type : Int32}
    {hash : Option Bytes} {expires : Option UInt64}
    (hbody : (Body.association recipient type hash expires).WellFormed)
    (hfits : (Body.association recipient type hash expires).fits version = true) :
    readBody (bodyFields version (.association recipient type hash expires)) .association =
      .ok (.association recipient type hash expires) := by
  obtain ⟨hhash, hexpires⟩ := hbody
  rw [bodyFields_association hfits]
  have htime : optionalUnsigned (associationFields recipient type hash ++
      Json.optionalField "expires" (expires.map fun time => .natural time.toNat)) "expires" =
      .ok expires := by
    apply optionalUnsigned_of_optional
    rw [optional_expires_associationFields, optional_expires_expires]
  rw [readBody, htime, addressField_associationFields, int32Field_associationFields,
    bytesField_associationFields recipient type hash (optional_hash_expires expires)]
  simp [Body.assumedAssociation, Body.nonEmpty_getD hhash, Body.nonZero_of_ne hexpires]

theorem readBody_revokeAssociation {version : Version} {recipient : Address} {type : Int32}
    {hash : Option Bytes} (hbody : (Body.revokeAssociation recipient type hash).WellFormed) :
    readBody (bodyFields version (.revokeAssociation recipient type hash)) .revokeAssociation =
      .ok (.revokeAssociation recipient type hash) := by
  have hfields : bodyFields version (.revokeAssociation recipient type hash) =
      associationFields recipient type hash ++ [] := by
    rw [bodyFields, List.append_nil]
  rw [hfields, readBody, addressField_associationFields, int32Field_associationFields,
    bytesField_associationFields recipient type hash (optional_nil "hash")]
  simp [Body.newRevokeAssociation, Body.nonEmpty_getD hbody]

/-- A well-formed body is read from the fields it was written to, provided the layout has room
for it. -/
theorem readBody_bodyFields {version : Version} {body : Body} (hbody : body.WellFormed)
    (hfits : body.fits version = true) :
    readBody (bodyFields version body) body.kind = .ok body := by
  -- Each field is read by the lemma for its kind, and the body is made of what was read.
  cases body with
  | transfer recipient amount attachment =>
    have hrecipient : addressField (bodyFields version (.transfer recipient amount attachment))
        "recipient" = .ok recipient := addressField_of_optional (by simp [bodyFields])
    have hamount : signedField (bodyFields version (.transfer recipient amount attachment))
        "amount" = .ok (Int64.ofInt amount.toNat) :=
      signedField_of_payable hbody (by simp [bodyFields])
    have hattachment : bytesField (bodyFields version (.transfer recipient amount attachment))
        "attachment" = .ok attachment := bytesField_of_optional (by simp [bodyFields])
    rw [Body.kind, readBody, hrecipient, hamount, hattachment]
    simp [Body.newTransfer, Body.positive_ofInt hbody]
  | lease recipient amount =>
    have hrecipient : addressField (bodyFields version (.lease recipient amount))
        "recipient" = .ok recipient := addressField_of_optional (by simp [bodyFields])
    have hamount : signedField (bodyFields version (.lease recipient amount))
        "amount" = .ok (Int64.ofInt amount.toNat) :=
      signedField_of_payable hbody (by simp [bodyFields])
    rw [Body.kind, readBody, hrecipient, hamount]
    simp [Body.newLease, Body.positive_ofInt hbody]
  | cancelLease leaseId =>
    have hid : stringField (bodyFields version (.cancelLease leaseId)) "leaseId" =
        .ok (Base58.encode leaseId.list) :=
      stringField_of_optional (by simp [bodyFields, base58Json])
    rw [Body.kind, readBody, hid]
    simp [Body.newCancelLease, Octets.ofList?_list]
  | massTransfer entries attachment =>
    have htransfers : arrayField (bodyFields version (.massTransfer entries attachment))
        .transfers = .ok (entries.map entryJson) :=
      arrayField_of_optional (by simp [bodyFields, Members.field])
    have hentries : (entries.map entryJson).mapM readEntry = .ok entries :=
      mapM_map_eq_ok fun entry _ => readEntry_entryJson entry
    have hattachment : bytesField (bodyFields version (.massTransfer entries attachment))
        "attachment" = .ok attachment := bytesField_of_optional (by simp [bodyFields])
    -- A well-formed body has no more entries than are read.
    have hlength : ¬ recipientLimit < entries.length := Nat.not_lt.mpr hbody
    rw [Body.kind, readBody, htransfers, ok_bind, hentries, hattachment]
    simp [Body.newMassTransfer, hlength]
  | setScript script =>
    have hscript : stringField (bodyFields version (.setScript script)) "script" =
        .ok (Script.toText script) := stringField_of_optional (by simp [bodyFields])
    rw [Body.kind, readBody, hscript, ok_bind, Body.newSetScript, Script.ofText_toText]
  | anchor hash =>
    have hanchors : arrayField (bodyFields version (.anchor hash)) .anchors =
        .ok [base58Json hash] := arrayField_of_optional (by simp [bodyFields, Members.field])
    rw [Body.kind, readBody, hanchors]
    simp [base58Json, Json.asString?, demand]
  | association recipient type hash expires => exact readBody_association hbody hfits
  | revokeAssociation recipient type hash => exact readBody_revokeAssociation hbody
  | sponsorship recipient =>
    have hrecipient : addressField (bodyFields version (.sponsorship recipient)) "recipient" =
        .ok recipient := addressField_of_optional (by simp [bodyFields])
    rw [Body.kind, readBody, hrecipient]
    rfl
  | cancelSponsorship recipient =>
    have hrecipient : addressField (bodyFields version (.cancelSponsorship recipient))
        "recipient" = .ok recipient := addressField_of_optional (by simp [bodyFields])
    rw [Body.kind, readBody, hrecipient]
    rfl

theorem byte?_toUInt64 (n : UInt8) : byte? n.toUInt64 = some n := by
  have hlt : n.toUInt64 < 256 := by
    rw [UInt64.lt_iff_toNat_lt]
    simpa using n.toNat_lt
  rw [byte?, if_pos hlt]
  simp

theorem readKind_of_optional {fields : Fields} {kind : Kind}
    (hfield : optional fields "type" = some (.natural kind.typeId.toNat)) :
    readKind fields = .ok kind := by
  rw [← UInt8.toNat_toUInt64] at hfield
  rw [readKind, unsignedField_of_optional hfield]
  simp [byte?_toUInt64]

theorem readVersion_of_optional {fields : Fields} {version : Version}
    (hfield : optional fields "version" = some (.natural version.number.toNat)) :
    readVersion fields = .ok version := by
  rw [← UInt8.toNat_toUInt64] at hfield
  rw [readVersion, unsignedField_of_optional hfield]
  simp [byte?_toUInt64]

theorem readProofs_of_optional {fields : Fields} {proofs : List Signature}
    (hfield : optional fields Members.proofs.field =
      some (.array (proofs.map fun proof => .string proof.toBase58))) :
    readProofs fields = .ok proofs := by
  have hread (proof : Signature) : readProof (.string proof.toBase58) = .ok proof := by
    simp [readProof, Json.asString?, demand, TransactionError.liftKey]
  rw [readProofs, hfield, arrayField_of_optional hfield]
  exact mapM_map_eq_ok fun proof _ => hread proof

/-! ## §4. Documents -/

/-- The document of a transaction gives the time that the transaction has. -/
theorem optional_timestamp_fields (tx : Transaction) :
    optional (Json.collected tx.fields) "timestamp" =
      tx.timestamp.map fun time => .natural time.toNat := by
  have hpart : (⟨["timestamp"],
      Json.optionalField "timestamp" (tx.timestamp.map fun time => .natural time.toNat),
      names_optionalField ..⟩ : Part) ∈ tx.parts := by
    simp [parts]
  rw [tx.agree_part hpart "timestamp" (by simp)]
  exact optional_optionalField (by cases tx.timestamp <;> simp)

/-- The fields that were written for a transaction say what the transaction is. -/
theorem read_fields {tx : Transaction} (hsound : Sound tx)
    (hreadable : ∀ signer, tx.HasSigner signer → signer.publicKey.Readable) :
    Read (Json.collected tx.fields) tx := by
  -- One fact for each part: the document looks to its reader as the part does.
  have hparts : ∀ part ∈ tx.parts, Agree (Json.collected tx.fields) part.fields part.names :=
    fun part hpart => tx.agree_part hpart
  simp only [parts, List.forall_mem_cons] at hparts
  obtain ⟨hkind, hversion, hsender, hfee, -, hbody, hsponsor, hproofs, -⟩ := hparts
  constructor
  case kind =>
    apply readKind_of_optional
    rw [hkind "type" (by simp)]
    simp
  case version =>
    apply readVersion_of_optional
    rw [hversion "version" (by simp)]
    simp
  case supported => exact hsound.supported
  case body =>
    rw [readBody_congr hbody]
    exact readBody_bodyFields hsound.body hsound.fits
  case fits => exact hsound.fits
  case fee =>
    apply unsignedField_of_optional
    rw [hfee "fee" (by simp)]
    simp
  case timestamp => exact optionalUnsigned_of_optional tx.optional_timestamp_fields
  case sender =>
    rw [readSigner_congr hsender]
    exact readSigner_optionalSigner fun signer hsigner =>
      ⟨hsound.signers signer (.inl hsigner), hreadable signer (.inl hsigner)⟩
  case sponsor =>
    rw [readSigner_congr hsponsor]
    exact readSigner_optionalSigner fun signer hsigner =>
      ⟨hsound.signers signer (.inr hsigner), hreadable signer (.inr hsigner)⟩
  case proofs =>
    apply readProofs_of_optional
    rw [Members.field, hproofs "proofs" (by simp)]
    simp

/-- The document of a reachable transaction looks to its reader as the transaction does. -/
theorem Reachable.read_fields {tx : Transaction} (hreach : Reachable tx) :
    Read (Json.collected tx.fields) tx :=
  Transaction.read_fields hreach.sound fun _ hsigner => hreach.readable hsigner

/-- **A reachable transaction is read back from its document as itself**: state of signing, body,
version, fee, time, parties and proofs. -/
theorem ofJson_toJson {tx : Transaction} (hreach : Reachable tx) : ofJson tx.toJson = .ok tx :=
  ofJson_eq_ok_iff.mpr ⟨_, Json.asObject?_ofFields _, hreach.read_fields⟩

/-- The sponsored association is read back. -/
theorem ofJson_toJson_example : ∃ tx, Example.draft.run Example.acts = .ok tx ∧
    ofJson tx.toJson = .ok tx := by
  obtain ⟨tx, hrun⟩ : ∃ tx, Example.draft.run Example.acts = .ok tx := ⟨_, rfl⟩
  exact ⟨tx, hrun, ofJson_toJson (Example.reachable_draft.run hrun)⟩

end Wallet.Transaction
