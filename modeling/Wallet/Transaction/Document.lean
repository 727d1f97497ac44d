import Wallet.Transaction.Signing
import Wallet.Json.Printer

/-!
# Transactions as documents

The JSON form that a node takes and returns. Keys, proofs, hashes and attachments are base58
text, scripts are base64 text behind `base64:`.

Reading ignores fields that it does not know, and treats a field that is `null` as absent. What
the document says about sender, sponsor and proofs decides the state of signing; the address of
a party must belong to its public key. Fields are looked at in a fixed order, so of two defects
the first in that order is reported.
-/

namespace Wallet.Transaction

/-- The fields of a document. -/
abbrev Fields := List (String × Json)

/-! ## §1. Writing -/

/-- The three fields of a party. -/
def signerFields (role : Role) (signer : Signer) : Fields :=
  [(role.field, .string signer.address.toText),
    (role.typeField, .string signer.publicKey.keyType.name),
    (role.keyField, .string signer.publicKey.toBase58)]

/-- The fields of a party that may be absent. -/
def optionalSigner (role : Role) : Option Signer → Fields
  | some signer => signerFields role signer
  | none => []

/-- One payment of a mass transfer. -/
def entryJson (entry : Entry) : Json :=
  .ofFields [("recipient", .string entry.recipient.toText),
    ("amount", .natural entry.amount.toNat)]

/-- Bytes as base58 text. -/
def base58Json (bytes : Bytes) : Json :=
  .string (Base58.encode bytes)

/-- The fields that an association and its withdrawal share. -/
def associationFields (recipient : Address) (type : Int32) (hash : Option Bytes) : Fields :=
  [("recipient", .string recipient.toText), ("associationType", .integer type.toInt)] ++
    Json.optionalField "hash" (hash.map base58Json)

/-- The fields of a body. -/
def bodyFields (version : Version) : Body → Fields
  | .transfer recipient amount attachment =>
    [("recipient", .string recipient.toText), ("amount", .natural amount.toNat),
      ("attachment", base58Json attachment)]
  | .lease recipient amount =>
    [("recipient", .string recipient.toText), ("amount", .natural amount.toNat)]
  | .cancelLease leaseId => [("leaseId", base58Json leaseId.list)]
  | .massTransfer entries attachment =>
    [("transfers", .array (entries.map entryJson)), ("attachment", base58Json attachment)]
  | .setScript script => [("script", .string (Script.toText script))]
  | .anchor hash => [("anchors", .array [base58Json hash])]
  | .association recipient type hash expires =>
    associationFields recipient type hash ++
      if version = .v3 then
        Json.optionalField "expires" (expires.map fun time => .natural time.toNat)
      else []
  | .revokeAssociation recipient type hash => associationFields recipient type hash
  | .sponsorship recipient => [("recipient", .string recipient.toText)]
  | .cancelSponsorship recipient => [("recipient", .string recipient.toText)]

/-- The fields of a transaction. -/
def fields (tx : Transaction) : Fields :=
  [("type", .natural tx.kind.typeId.toNat), ("version", .natural tx.version.number.toNat)] ++
    optionalSigner .sender tx.sender? ++
    [("fee", .natural tx.fee.toNat)] ++
    Json.optionalField "timestamp" (tx.timestamp.map fun time => .natural time.toNat) ++
    bodyFields tx.version tx.body ++
    optionalSigner .sponsor tx.sponsor? ++
    [("proofs", .array (tx.proofs.map fun proof => .string proof.toBase58))]

/-- The document of a transaction. -/
def toJson (tx : Transaction) : Json :=
  .ofFields tx.fields

/-! ## §2. Reading fields -/

/-- Refuse a document. -/
def refuse {α : Type} (defect : Defect) : Except TransactionError α :=
  .error (.malformed defect)

/-- Take a value or refuse the document. -/
def demand {α : Type} (value : Option α) (defect : Defect) : Except TransactionError α :=
  match value with
  | some a => .ok a
  | none => refuse defect

/-- A field that is there and not `null`. -/
def optional (fields : Fields) (name : String) : Option Json :=
  (Json.field? fields name).filter fun value => !value.isNull

/-- A field that must be there. -/
def required (fields : Fields) (name : String) : Except TransactionError Json :=
  demand (optional fields name) (.missing name)

def unsignedField (fields : Fields) (name : String) : Except TransactionError UInt64 := do
  demand (← required fields name).asUnsigned? (.notUnsigned name)

def signedField (fields : Fields) (name : String) : Except TransactionError Int64 := do
  demand (← required fields name).asSigned? (.notInteger name)

def int32Field (fields : Fields) (name : String) : Except TransactionError Int32 := do
  let i := (← signedField fields name).toInt
  if Int32.minValue.toInt ≤ i ∧ i ≤ Int32.maxValue.toInt then .ok (Int32.ofInt i)
  else refuse (.tooWide name)

def stringField (fields : Fields) (name : String) : Except TransactionError String := do
  demand (← required fields name).asString? (.notString name)

def addressField (fields : Fields) (name : String) : Except TransactionError Address := do
  TransactionError.liftAddress (Address.ofText (← stringField fields name))

/-- Base58 text, standing for no bytes if it is absent. -/
def bytesField (fields : Fields) (name : String) : Except TransactionError Bytes :=
  match optional fields name with
  | none => .ok []
  | some _ => do TransactionError.decodeBase58 (← stringField fields name)

/-- A number that may be absent. -/
def optionalUnsigned (fields : Fields) (name : String) :
    Except TransactionError (Option UInt64) :=
  match optional fields name with
  | none => .ok none
  | some _ => do return some (← unsignedField fields name)

/-- A list that must be there. -/
def arrayField (fields : Fields) (members : Members) : Except TransactionError (List Json) := do
  demand (← required fields members.field).asArray? (.notArray members)

/-! ## §3. Reading parties, proofs and bodies -/

/-- The scheme of a party, the first scheme if it is not given. -/
def readKeyType (fields : Fields) (role : Role) : Except TransactionError KeyType :=
  match optional fields role.typeField with
  | none => .ok .ed25519
  | some _ => do TransactionError.liftKey (KeyType.ofName (← stringField fields role.typeField))

/-- The address of a party. If it is not given, it is computed on the chain of the sender. -/
def readAddress (fields : Fields) (role : Role) (chain : Option Char) (key : PublicKey) :
    Except TransactionError Address :=
  match optional fields role.field, chain with
  | some _, _ => addressField fields role.field
  | none, some chain => TransactionError.liftAddress (Address.ofPublicKey key chain)
  | none, none => refuse (.missing role.field)

/-- Read a party of which the public key is given. -/
def readKnownSigner (fields : Fields) (role : Role) (chain : Option Char) (keyJson : Json) :
    Except TransactionError Signer := do
  let text ← demand keyJson.asString? (.notString role.keyField)
  let keyType ← readKeyType fields role
  let key ← TransactionError.liftKey (PublicKey.ofBase58 keyType text)
  let address ← readAddress fields role chain key
  if address.matchesKey key then .ok ⟨address, key⟩ else refuse (.foreignAddress role address)

/-- Read a party, which is there if its public key is. -/
def readSigner (fields : Fields) (role : Role) (chain : Option Char) :
    Except TransactionError (Option Signer) :=
  match optional fields role.keyField with
  | some keyJson => do return some (← readKnownSigner fields role chain keyJson)
  | none =>
    match optional fields role.field with
    | some _ => refuse (.missingKey role)
    | none => .ok none

def readProof (proof : Json) : Except TransactionError Signature := do
  let text ← demand proof.asString? (.badMember .proofs)
  TransactionError.liftKey (Signature.ofBase58 text)

/-- Read the proofs, none if the list is absent. -/
def readProofs (fields : Fields) : Except TransactionError (List Signature) :=
  match optional fields Members.proofs.field with
  | none => .ok []
  | some _ => do (← arrayField fields .proofs).mapM readProof

def readEntry (entry : Json) : Except TransactionError Entry := do
  let fields ← demand entry.asObject? (.badMember .transfers)
  let recipient ← addressField fields "recipient"
  let amount ← unsignedField fields "amount"
  return ⟨recipient, amount⟩

/-- Read the body of a kind. -/
def readBody (fields : Fields) : Kind → Except TransactionError Body
  | .transfer => do
    let recipient ← addressField fields "recipient"
    let amount ← signedField fields "amount"
    let attachment ← bytesField fields "attachment"
    Body.newTransfer recipient amount attachment
  | .lease => do
    let recipient ← addressField fields "recipient"
    let amount ← signedField fields "amount"
    Body.newLease recipient amount
  | .cancelLease => do Body.newCancelLease (← stringField fields "leaseId")
  | .massTransfer => do
    let entries ← (← arrayField fields .transfers).mapM readEntry
    let attachment ← bytesField fields "attachment"
    Body.newMassTransfer entries attachment
  | .setScript => do Body.newSetScript (← stringField fields "script")
  | .anchor => do
    match ← arrayField fields .anchors with
    | [anchor] => do
      let text ← demand anchor.asString? (.badMember .anchors)
      return .anchor (← TransactionError.decodeBase58 text)
    | anchors => refuse (.anchorCount anchors.length)
  | .association => do
    -- Alone among optional fields the expiry is looked at first, so its defect is reported first.
    let expires ← optionalUnsigned fields "expires"
    let recipient ← addressField fields "recipient"
    let type ← int32Field fields "associationType"
    let hash ← bytesField fields "hash"
    return Body.assumedAssociation recipient type (some hash) expires
  | .revokeAssociation => do
    let recipient ← addressField fields "recipient"
    let type ← int32Field fields "associationType"
    let hash ← bytesField fields "hash"
    return Body.newRevokeAssociation recipient type (some hash)
  | .sponsorship => do return .sponsorship (← addressField fields "recipient")
  | .cancelSponsorship => do return .cancelSponsorship (← addressField fields "recipient")

/-! ## §4. Reading documents -/

/-- A byte from a number that may be too big for one. -/
def byte? (n : UInt64) : Option UInt8 :=
  if n < 256 then some n.toUInt8 else none

def readKind (fields : Fields) : Except TransactionError Kind := do
  let id ← unsignedField fields "type"
  match (byte? id).bind Kind.ofTypeId? with
  | some kind => .ok kind
  | none => .error (.unknownType id)

def readVersion (fields : Fields) : Except TransactionError Version := do
  let id ← unsignedField fields "version"
  match (byte? id).bind Version.ofNumber? with
  | some version => .ok version
  | none => .error (.unknownVersion id)

/-- The state of signing that parties and proofs amount to. -/
def assemble : (sender sponsor : Option Signer) → (proofs : List Signature) →
    Except TransactionError Signing
  | none, none, [] => .ok .unsigned
  | none, _, _ => refuse .noSender
  | some _, _, [] => refuse .noProof
  | some sender, none, proof :: cosigned => .ok (.signed sender proof cosigned)
  | some _, some _, [_] => refuse .noSponsorProof
  -- A sponsor signs last, so what lies between the first proof and the last is by co-signers.
  | some sender, some sponsor, proof :: next :: rest =>
    .ok (.sponsored sender proof (next :: rest).dropLast sponsor
      ((next :: rest).getLast (List.cons_ne_nil _ _)))

/-- Read a transaction from the fields of its document. -/
def ofFields (fields : Fields) : Except TransactionError Transaction := do
  let kind ← readKind fields
  let version ← readVersion fields
  -- A version without a layout is reported before any defect of the body.
  Body.checkVersion kind version
  let body ← readBody fields kind
  body.checkFits version
  let fee ← unsignedField fields "fee"
  let timestamp ← optionalUnsigned fields "timestamp"
  let sender ← readSigner fields .sender none
  -- Where the sponsor has no address of its own, it is on the chain of the sender.
  let sponsor ← readSigner fields .sponsor (sender.map fun s => s.address.chainId)
  let proofs ← readProofs fields
  let signing ← assemble sender sponsor proofs
  return ⟨body, version, fee, timestamp, signing⟩

/-- Read a transaction from its document. -/
def ofJson (document : Json) : Except TransactionError Transaction := do
  ofFields (← demand document.asObject? .notObject)

/-- Read a transaction from the text of its document. -/
def ofText (text : String) : Except TransactionError Transaction :=
  match Json.parse text with
  | .ok document => ofJson document
  | .error fault => .error (.json fault)

end Wallet.Transaction
