import Wallet.Transaction.Kind
import Wallet.Address
import Wallet.Json.Parser

/-!
# What can be wrong with a transaction

One cause per rule. `Defect` holds the causes that only a document can have: a field that is
missing, of the wrong type, or at odds with another field.
-/

namespace Wallet

/-- The two parties that a document names. -/
inductive Role where
  | sender
  | sponsor
  deriving DecidableEq

/-- The field with the address of a party, from which its other two fields take their names. -/
def Role.field : Role → String
  | .sender => "sender"
  | .sponsor => "sponsor"

/-- The field with the public key of a party. -/
def Role.keyField (role : Role) : String :=
  role.field ++ "PublicKey"

/-- The field with the scheme of a party. -/
def Role.typeField (role : Role) : String :=
  role.field ++ "KeyType"

/-- What a list in a document holds. -/
inductive Members where
  | proofs
  | transfers
  | anchors
  deriving DecidableEq

def Members.field : Members → String
  | .proofs => "proofs"
  | .transfers => "transfers"
  | .anchors => "anchors"

/-- What a member of a list has to be. -/
def Members.demand : Members → String
  | .proofs => "base58 strings"
  | .transfers => "objects"
  | .anchors => "base58 strings"

/-- Why a document is not a transaction. -/
inductive Defect where
  | notObject
  | missing (field : String)
  | notUnsigned (field : String)
  | notInteger (field : String)
  | tooWide (field : String)
  | notString (field : String)
  | notArray (members : Members)
  | badMember (members : Members)
  | anchorCount (count : Nat)
  | missingKey (role : Role)
  | foreignAddress (role : Role) (address : Address)
  | noSender
  | noProof
  | noSponsorProof
  deriving DecidableEq

def Defect.message : Defect → String
  | .notObject => "transaction must be a JSON object"
  | .missing field => s!"missing field \"{field}\""
  | .notUnsigned field => s!"\"{field}\" must be a non-negative integer"
  | .notInteger field => s!"\"{field}\" must be an integer"
  | .tooWide field => s!"\"{field}\" does not fit in 32 bits"
  | .notString field => s!"\"{field}\" must be a string"
  | .notArray members => s!"\"{members.field}\" must be an array"
  | .badMember members => s!"{members.field} must be {members.demand}"
  | .anchorCount count => s!"expected exactly one anchor, got {count}"
  | .missingKey role => s!"\"{role.field}\" given without \"{role.keyField}\""
  | .foreignAddress role _ => s!"\"{role.field}\" does not match \"{role.keyField}\""
  | .noSender => "proofs or sponsor present without a sender"
  | .noProof => "sender present without proofs"
  | .noSponsorProof => "sponsored transaction needs a sender and a sponsor proof"

/-- The fields that stand behind a length of 16 bits in the signed bytes. -/
inductive SizedField where
  | attachment
  | script
  | anchor
  | hash
  | transfers
  deriving DecidableEq

def SizedField.name : SizedField → String
  | .attachment => "attachment"
  | .script => "script"
  | .anchor => "anchor"
  | .hash => "hash"
  | .transfers => "transfers"

/-- The largest length of a sized field. -/
def sizeLimit : Nat := 65535

/-- The largest number of recipients of a mass transfer. -/
def recipientLimit : Nat := 100

/-- The number of bytes in the id of a lease. -/
def leaseIdLength : Nat := 32

/-- Why a transaction was not built, encoded, signed or read. -/
inductive TransactionError where
  | invalidAmount (amount : Int64)
  | tooManyRecipients (count : Nat)
  | invalidFee (base : UInt64) (recipients : Nat)
  | expiryNotSupported (kind : Kind) (version : Version)
  | invalidExpiry (expires now : UInt64)
  | unsupportedVersion (kind : Kind) (version : Version)
  | unsupportedKeyType (kind : Kind) (version : Version) (keyType : KeyType)
  | alreadySponsored
  | notYetSigned
  | missingSender
  | fieldTooLong (field : SizedField) (length : Nat)
  | invalidLeaseId (length : Nat)
  | unknownType (id : UInt64)
  | unknownVersion (id : UInt64)
  | malformed (defect : Defect)
  | address (cause : AddressError)
  | key (cause : KeyError)
  | decode (cause : DecodeError)
  | json (fault : Json.Fault)
  deriving DecidableEq

namespace TransactionError

def message : TransactionError → String
  | .invalidAmount amount => s!"amount must be > 0, got {amount.toInt}"
  | .tooManyRecipients count => s!"too many recipients: {count} (max {recipientLimit})"
  | .invalidFee base recipients =>
    s!"fee overflows: base fee {base} for {recipients} recipients"
  | .expiryNotSupported kind version =>
    s!"{kind.name} v{version.number} cannot carry an expiry"
  | .invalidExpiry expires now => s!"expiry {expires} is not after the current time {now}"
  | .unsupportedVersion kind version =>
    s!"{kind.name} does not support version {version.number}"
  | .unsupportedKeyType kind version keyType =>
    s!"{kind.name} v{version.number} cannot encode a {keyType.name} sender"
  | .alreadySponsored => "transaction is already sponsored"
  | .notYetSigned => "transaction must be signed by the sender before it can be sponsored"
  | .missingSender => "transaction has no sender"
  | .fieldTooLong field length =>
    s!"{field.name} is {length} bytes, longer than the {sizeLimit}-byte limit"
  | .invalidLeaseId length =>
    s!"invalid lease id: expected {leaseIdLength} bytes, got {length}"
  | .unknownType id => s!"unknown transaction type {id}"
  | .unknownVersion id => s!"unknown transaction version {id}"
  | .malformed defect => "malformed transaction: " ++ defect.message
  | .address cause => cause.message
  | .key cause => cause.message
  | .decode cause => cause.message
  | .json .truncated => "invalid transaction JSON: the text ends early"
  | .json .malformed => "invalid transaction JSON: the text is malformed"

/-- Pass on an error about an address. -/
def liftAddress {α : Type} : Except AddressError α → Except TransactionError α
  | .ok a => .ok a
  | .error cause => .error (.address cause)

/-- Pass on an error about a key. -/
def liftKey {α : Type} : Except KeyError α → Except TransactionError α
  | .ok a => .ok a
  | .error cause => .error (.key cause)

/-- Read base58 text as part of a transaction. -/
def decodeBase58 (text : String) : Except TransactionError Bytes :=
  match Base58.decode text with
  | .ok bytes => .ok bytes
  | .error cause => .error (.decode (.base58 cause))

end TransactionError

end Wallet
