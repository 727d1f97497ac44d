import Wallet.Proofs.Address
import Wallet.Proofs.Json.Fields
import Wallet.Proofs.Key
import Wallet.Proofs.Outcome
import Wallet.Proofs.Transaction.Body
import Wallet.Proofs.Transaction.Script
import Wallet.Transaction.Document

/-!
# Fields that are read

Every reader of a document looks at fields by name, and a field that is `null` looks absent to
it. So two documents that agree on the names a reader looks at (`Agree`) are read alike: for the
body of a kind these are `bodyNames`, and for a whole transaction of that kind `readNames`.

The rest gives, for each kind of field, what is read where something was written, and what stands
where something was read. The two agree, since every text, number and list has one form.
-/

namespace Wallet.Transaction

/-! ## §1. Names -/

/-- The fields of the body of a kind. -/
def bodyNames : Kind → List String
  | .transfer => ["recipient", "amount", "attachment"]
  | .lease => ["recipient", "amount"]
  | .cancelLease => ["leaseId"]
  | .massTransfer => ["transfers", "attachment"]
  | .setScript => ["script"]
  | .anchor => ["anchors"]
  | .association => ["recipient", "associationType", "hash", "expires"]
  | .revokeAssociation => ["recipient", "associationType", "hash"]
  | .sponsorship => ["recipient"]
  | .cancelSponsorship => ["recipient"]

/-- The fields of a party. -/
def signerNames (role : Role) : List String :=
  [role.field, role.typeField, role.keyField]

/-- The fields that are read for a kind. -/
def readNames (kind : Kind) : List String :=
  ["type", "version"] ++ signerNames .sender ++ ["fee", "timestamp"] ++ bodyNames kind ++
    signerNames .sponsor ++ ["proofs"]

/-- The fields that are read whatever the kind. -/
def envelopeNames : List String :=
  ["type", "version", "fee", "timestamp", "proofs"] ++ signerNames .sender ++
    signerNames .sponsor

theorem mem_readNames {kind : Kind} {name : String} :
    name ∈ readNames kind ↔ name ∈ envelopeNames ∨ name ∈ bodyNames kind := by
  simp only [readNames, envelopeNames, List.mem_append, List.mem_cons, List.not_mem_nil, or_false]
  tauto

/-- Two documents look the same at some names. -/
def Agree (f g : Fields) (names : List String) : Prop :=
  ∀ name ∈ names, optional f name = optional g name

theorem Agree.mono {f g : Fields} {names others : List String} (hagree : Agree f g names)
    (hsubset : others ⊆ names) : Agree f g others :=
  fun name hname => hagree name (hsubset hname)

/-! ## §2. Readers look at names -/

section Congruence

variable {f g : Fields} {name : String} (heq : optional f name = optional g name)

include heq

theorem required_congr : required f name = required g name := by
  rw [required, required, heq]

theorem unsignedField_congr : unsignedField f name = unsignedField g name := by
  rw [unsignedField, unsignedField, required_congr heq]

theorem signedField_congr : signedField f name = signedField g name := by
  rw [signedField, signedField, required_congr heq]

theorem int32Field_congr : int32Field f name = int32Field g name := by
  rw [int32Field, int32Field, signedField_congr heq]

theorem stringField_congr : stringField f name = stringField g name := by
  rw [stringField, stringField, required_congr heq]

theorem addressField_congr : addressField f name = addressField g name := by
  rw [addressField, addressField, stringField_congr heq]

theorem bytesField_congr : bytesField f name = bytesField g name := by
  rw [bytesField, bytesField, heq, stringField_congr heq]

theorem optionalUnsigned_congr : optionalUnsigned f name = optionalUnsigned g name := by
  rw [optionalUnsigned, optionalUnsigned, heq, unsignedField_congr heq]

end Congruence

theorem arrayField_congr {f g : Fields} {members : Members}
    (heq : optional f members.field = optional g members.field) :
    arrayField f members = arrayField g members := by
  rw [arrayField, arrayField, required_congr heq]

/-- The body of a kind is read from the fields of that kind alone. -/
theorem readBody_congr {f g : Fields} {kind : Kind} (hagree : Agree f g (bodyNames kind)) :
    readBody f kind = readBody g kind := by
  cases kind with
  | transfer =>
    rw [readBody, readBody, addressField_congr (hagree "recipient" (by decide)),
      signedField_congr (hagree "amount" (by decide)),
      bytesField_congr (hagree "attachment" (by decide))]
  | lease =>
    rw [readBody, readBody, addressField_congr (hagree "recipient" (by decide)),
      signedField_congr (hagree "amount" (by decide))]
  | cancelLease =>
    rw [readBody, readBody, stringField_congr (hagree "leaseId" (by decide))]
  | massTransfer =>
    rw [readBody, readBody, arrayField_congr (hagree Members.transfers.field (by decide)),
      bytesField_congr (hagree "attachment" (by decide))]
  | setScript =>
    rw [readBody, readBody, stringField_congr (hagree "script" (by decide))]
  | anchor =>
    rw [readBody, readBody, arrayField_congr (hagree Members.anchors.field (by decide))]
  | association =>
    rw [readBody, readBody, optionalUnsigned_congr (hagree "expires" (by decide)),
      addressField_congr (hagree "recipient" (by decide)),
      int32Field_congr (hagree "associationType" (by decide)),
      bytesField_congr (hagree "hash" (by decide))]
  | revokeAssociation =>
    rw [readBody, readBody, addressField_congr (hagree "recipient" (by decide)),
      int32Field_congr (hagree "associationType" (by decide)),
      bytesField_congr (hagree "hash" (by decide))]
  | sponsorship =>
    rw [readBody, readBody, addressField_congr (hagree "recipient" (by decide))]
  | cancelSponsorship =>
    rw [readBody, readBody, addressField_congr (hagree "recipient" (by decide))]

/-- A party is read from its own fields alone. -/
theorem readSigner_congr {f g : Fields} {role : Role} {chain : Option Char}
    (hagree : Agree f g (signerNames role)) :
    readSigner f role chain = readSigner g role chain := by
  -- A party has three fields, and each of its readers looks at these alone.
  have hfield : optional f role.field = optional g role.field :=
    hagree role.field (by simp [signerNames])
  have htype : optional f role.typeField = optional g role.typeField :=
    hagree role.typeField (by simp [signerNames])
  have hkey : optional f role.keyField = optional g role.keyField :=
    hagree role.keyField (by simp [signerNames])
  have hkeyType : readKeyType f role = readKeyType g role := by
    rw [readKeyType, readKeyType, htype, stringField_congr htype]
  have haddress (key : PublicKey) :
      readAddress f role chain key = readAddress g role chain key := by
    unfold readAddress
    rw [hfield, addressField_congr hfield]
  have hknown (keyJson : Json) :
      readKnownSigner f role chain keyJson = readKnownSigner g role chain keyJson := by
    simp only [readKnownSigner, hkeyType, haddress]
  simp only [readSigner, hkey, hfield, hknown]

theorem readKind_congr {f g : Fields} (heq : optional f "type" = optional g "type") :
    readKind f = readKind g := by
  rw [readKind, readKind, unsignedField_congr heq]

theorem readVersion_congr {f g : Fields} (heq : optional f "version" = optional g "version") :
    readVersion f = readVersion g := by
  rw [readVersion, readVersion, unsignedField_congr heq]

theorem readProofs_congr {f g : Fields}
    (heq : optional f Members.proofs.field = optional g Members.proofs.field) :
    readProofs f = readProofs g := by
  rw [readProofs, readProofs, heq, arrayField_congr heq]

/-- What is read is settled by the fields of the envelope and by what the body is read as. -/
theorem ofFields_congr_of_body {f g : Fields} (hagree : Agree f g envelopeNames)
    (hbody : ∀ kind, readKind f = .ok kind → readBody f kind = readBody g kind) :
    ofFields f = ofFields g := by
  have hkinds : readKind f = readKind g := readKind_congr (hagree "type" (by decide))
  have hversion : readVersion f = readVersion g := readVersion_congr (hagree "version" (by decide))
  have hfee : unsignedField f "fee" = unsignedField g "fee" :=
    unsignedField_congr (hagree "fee" (by decide))
  have htimestamp : optionalUnsigned f "timestamp" = optionalUnsigned g "timestamp" :=
    optionalUnsigned_congr (hagree "timestamp" (by decide))
  have hsigner (role : Role) (chain : Option Char) :
      readSigner f role chain = readSigner g role chain := by
    refine readSigner_congr (hagree.mono fun name hname => ?_)
    cases role <;> simp [envelopeNames, hname]
  have hproofs : readProofs f = readProofs g := readProofs_congr (hagree _ (by decide))
  -- Which fields the body is read from is known only once the kind is.
  cases hkind : readKind f with
  | error e => simp only [ofFields, ← hkinds, hkind, error_bind]
  | ok kind =>
    simp only [ofFields, ← hkinds, hkind, ok_bind, hversion, hbody kind hkind, hfee, htimestamp,
      hsigner, hproofs]

/-- A transaction of a kind is read from the fields for that kind alone. -/
theorem ofFields_congr {f g : Fields} {kind : Kind} (hkind : readKind f = .ok kind)
    (hagree : Agree f g (readNames kind)) : ofFields f = ofFields g := by
  have henvelope : Agree f g envelopeNames :=
    hagree.mono fun name hname => mem_readNames.mpr (.inl hname)
  refine ofFields_congr_of_body henvelope fun other hother => ?_
  cases hkind.symm.trans hother
  exact readBody_congr (hagree.mono fun name hname => mem_readNames.mpr (.inr hname))

/-! ## §3. What was written is read -/

section Written

variable {fields : Fields} {name : String}

/-- A field that is there and not `null` is found. -/
theorem optional_of_field? {value : Json} (hfield : Json.field? fields name = some value)
    (hnull : value.isNull = false) : optional fields name = some value := by
  rw [optional, hfield]
  simp [hnull]

/-- What the fields of a document hold is what the document holds. -/
theorem optional_eq_get? {document : Json} (hobject : document.asObject? = some fields)
    (name : String) : optional fields name = (document.get? name).filter fun v => !v.isNull := by
  rw [Json.eq_object_of_asObject? hobject]
  rfl

@[simp] theorem optional_nil (name : String) : optional [] name = none := rfl

@[simp] theorem optional_cons {name other : String} {value : Json} {rest : Fields}
    (hnull : value.isNull = false) :
    optional ((name, value) :: rest) other =
      if name = other then some value else optional rest other := by
  rw [optional, Json.field?_cons]
  by_cases hname : name = other <;> simp [hname, hnull, optional]

theorem optional_optionalField {value : Option Json}
    (hnull : ∀ v, value = some v → v.isNull = false) :
    optional (Json.optionalField name value) name = value := by
  cases value with
  | none => rfl
  | some v => simp [Json.optionalField, hnull v rfl]

@[simp] theorem isNull_base58Json (bytes : Bytes) : (base58Json bytes).isNull = false := by
  simp [base58Json]

theorem required_of_optional {value : Json} (hfield : optional fields name = some value) :
    required fields name = .ok value := by
  rw [required, hfield]
  rfl

theorem unsignedField_of_optional {n : UInt64}
    (hfield : optional fields name = some (.natural n.toNat)) :
    unsignedField fields name = .ok n := by
  rw [unsignedField, required_of_optional hfield, ok_bind, Json.asUnsigned?_natural]
  rfl

theorem signedField_of_optional {i : Int} (hlow : Int64.minValue.toInt ≤ i)
    (hhigh : i ≤ Int64.maxValue.toInt) (hfield : optional fields name = some (.integer i)) :
    signedField fields name = .ok (Int64.ofInt i) := by
  rw [signedField, required_of_optional hfield, ok_bind, Json.asSigned?_integer hlow hhigh]
  rfl

/-- An amount is written without a sign and read with one. -/
theorem signedField_of_payable {amount : UInt64} (hpayable : Body.IsPayable amount)
    (hfield : optional fields name = some (.natural amount.toNat)) :
    signedField fields name = .ok (Int64.ofInt amount.toNat) :=
  signedField_of_optional hpayable.bounds.1 hpayable.bounds.2 hfield

theorem int32Field_of_optional {i : Int32}
    (hfield : optional fields name = some (.integer i.toInt)) :
    int32Field fields name = .ok i := by
  have hlow := i.minValue_le_toInt
  have hhigh := i.toInt_le
  -- What fits 32 bits fits 64 bits.
  have hlow64 : Int64.minValue.toInt ≤ i.toInt := Int.le_trans (by decide) hlow
  have hhigh64 : i.toInt ≤ Int64.maxValue.toInt := Int.le_trans hhigh (by decide)
  rw [int32Field, signedField_of_optional hlow64 hhigh64 hfield, ok_bind,
    Json.toInt_ofInt hlow64 hhigh64, if_pos ⟨hlow, hhigh⟩, Int32.ofInt_toInt]

theorem stringField_of_optional {text : String}
    (hfield : optional fields name = some (.string text)) :
    stringField fields name = .ok text := by
  rw [stringField, required_of_optional hfield]
  rfl

theorem addressField_of_optional {address : Address}
    (hfield : optional fields name = some (.string address.toText)) :
    addressField fields name = .ok address := by
  rw [addressField, stringField_of_optional hfield, ok_bind, Address.ofText_toText]
  rfl

@[simp] theorem decodeBase58_encode (bytes : Bytes) :
    TransactionError.decodeBase58 (Base58.encode bytes) = .ok bytes := by
  simp [TransactionError.decodeBase58]

theorem bytesField_of_optional {bytes : Bytes}
    (hfield : optional fields name = some (base58Json bytes)) :
    bytesField fields name = .ok bytes := by
  rw [bytesField, hfield, stringField_of_optional hfield, ok_bind, decodeBase58_encode]

theorem bytesField_of_absent (hfield : optional fields name = none) :
    bytesField fields name = .ok [] := by
  rw [bytesField, hfield]

/-- Bytes that are left out are read as none. -/
theorem bytesField_of_map {bytes : Option Bytes}
    (hfield : optional fields name = bytes.map base58Json) :
    bytesField fields name = .ok (bytes.getD []) := by
  cases bytes with
  | none => exact bytesField_of_absent hfield
  | some bytes => exact bytesField_of_optional hfield

theorem optionalUnsigned_of_optional {n : Option UInt64}
    (hfield : optional fields name = n.map fun n => .natural n.toNat) :
    optionalUnsigned fields name = .ok n := by
  cases n with
  | none => rw [optionalUnsigned, hfield, Option.map_none]
  | some n =>
    rw [optionalUnsigned, hfield, Option.map_some, unsignedField_of_optional hfield]
    rfl

theorem arrayField_of_optional {members : Members} {items : List Json}
    (hfield : optional fields members.field = some (.array items)) :
    arrayField fields members = .ok items := by
  rw [arrayField, required_of_optional hfield]
  rfl

end Written

/-! ## §4. What was read stands there -/

section Read

variable {fields : Fields} {name : String}

theorem demand_eq_ok {α : Type} {value : Option α} {defect : Defect} {a : α} :
    demand value defect = .ok a ↔ value = some a := by
  cases value <;> simp [demand, refuse]

theorem optional_of_required {value : Json} (hread : required fields name = .ok value) :
    optional fields name = some value :=
  demand_eq_ok.mp hread

theorem optional_of_unsignedField {n : UInt64} (hread : unsignedField fields name = .ok n) :
    optional fields name = some (.natural n.toNat) := by
  obtain ⟨value, hvalue, hn⟩ := bind_eq_ok.mp hread
  rw [optional_of_required hvalue, Json.eq_natural_of_asUnsigned? (demand_eq_ok.mp hn)]

theorem optional_of_signedField {n : Int64} (hread : signedField fields name = .ok n) :
    optional fields name = some (.integer n.toInt) := by
  obtain ⟨value, hvalue, hn⟩ := bind_eq_ok.mp hread
  rw [optional_of_required hvalue, Json.eq_integer_of_asSigned? (demand_eq_ok.mp hn)]

theorem optional_of_int32Field {n : Int32} (hread : int32Field fields name = .ok n) :
    optional fields name = some (.integer n.toInt) := by
  obtain ⟨wide, hwide, hn⟩ := bind_eq_ok.mp hread
  dsimp only at hn
  split at hn
  · next hrange =>
    cases hn
    -- What fits 32 bits is not cut off.
    rw [optional_of_signedField hwide, Int32.toInt_ofInt_of_le hrange.1
      (Int.lt_add_one_of_le hrange.2)]
  · cases hn

theorem optional_of_stringField {text : String} (hread : stringField fields name = .ok text) :
    optional fields name = some (.string text) := by
  obtain ⟨value, hvalue, htext⟩ := bind_eq_ok.mp hread
  rw [optional_of_required hvalue, Json.eq_string_of_asString? (demand_eq_ok.mp htext)]

theorem optional_of_arrayField {members : Members} {items : List Json}
    (hread : arrayField fields members = .ok items) :
    optional fields members.field = some (.array items) := by
  obtain ⟨value, hvalue, hitems⟩ := bind_eq_ok.mp hread
  rw [optional_of_required hvalue, Json.eq_array_of_asArray? (demand_eq_ok.mp hitems)]

theorem liftAddress_eq_ok {α : Type} {x : Except AddressError α} {a : α} :
    TransactionError.liftAddress x = .ok a ↔ x = .ok a := by
  cases x <;> simp [TransactionError.liftAddress]

theorem optional_of_addressField {address : Address}
    (hread : addressField fields name = .ok address) :
    optional fields name = some (.string address.toText) := by
  obtain ⟨text, htext, haddress⟩ := bind_eq_ok.mp hread
  rw [optional_of_stringField htext, Address.toText_of_ofText (liftAddress_eq_ok.mp haddress)]

theorem encode_of_decodeBase58 {text : String} {bytes : Bytes}
    (hread : TransactionError.decodeBase58 text = .ok bytes) : Base58.encode bytes = text := by
  unfold TransactionError.decodeBase58 at hread
  split at hread
  · next hdecode =>
    cases hread
    exact Base58.encode_of_decode hdecode
  · cases hread

/-- Base58 text stands there, or nothing does and no bytes are read. -/
theorem optional_of_bytesField {bytes : Bytes} (hread : bytesField fields name = .ok bytes) :
    optional fields name = some (base58Json bytes) ∨ optional fields name = none ∧ bytes = [] := by
  unfold bytesField at hread
  split at hread
  · next hnone =>
    cases hread
    exact .inr ⟨hnone, rfl⟩
  · obtain ⟨text, htext, hbytes⟩ := bind_eq_ok.mp hread
    left
    rw [optional_of_stringField htext, base58Json, encode_of_decodeBase58 hbytes]

theorem optional_of_optionalUnsigned {n : Option UInt64}
    (hread : optionalUnsigned fields name = .ok n) :
    optional fields name = n.map fun n => .natural n.toNat := by
  unfold optionalUnsigned at hread
  split at hread
  · next hnone =>
    cases hread
    exact hnone
  · obtain ⟨n, hn, hsome⟩ := bind_eq_ok.mp hread
    cases hsome
    exact optional_of_unsignedField hn

end Read

/-! ## §5. The id of a lease -/

theorem decodeBase58_eq_ok_iff {text : String} {bytes : Bytes} :
    TransactionError.decodeBase58 text = .ok bytes ↔ text = Base58.encode bytes := by
  constructor
  · intro hread
    exact (encode_of_decodeBase58 hread).symm
  · rintro rfl
    exact decodeBase58_encode bytes

/-- A lease is ended under the text of its id alone. -/
theorem newCancelLease_eq_ok_iff {text : String} {body : Body} :
    Body.newCancelLease text = .ok body ↔
      ∃ id, body = .cancelLease id ∧ text = Base58.encode id.list := by
  constructor
  · intro hread
    unfold Body.newCancelLease at hread
    -- The text has to be base58, and there have to be 32 bytes behind it.
    split at hread
    · next bytes hbytes =>
      split at hread
      · next id hid =>
        cases hread
        rw [← Octets.list_of_ofList? hid] at hbytes
        exact ⟨id, rfl, decodeBase58_eq_ok_iff.mp hbytes⟩
      · cases hread
    · cases hread
  · rintro ⟨id, rfl, rfl⟩
    simp [Body.newCancelLease, Octets.ofList?_list]

end Wallet.Transaction
