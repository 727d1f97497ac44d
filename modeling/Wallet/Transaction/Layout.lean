import Wallet.Transaction.Body

/-!
# The signed bytes

The bytes of a transaction are what is signed and what its id is hashed from. Every kind has two
layouts. All numbers are big-endian, and fields of varying length stand behind their length in
16 bits.

The current layouts share a header with the chain, the time, the public key behind the marker of
its scheme, and the fee. The older layouts hold a bare key of 32 bytes and so work for Ed25519
alone; each has an order of its own, and four of them do not name the chain.
-/

namespace Wallet.Layout

/-- What surrounds a body in its bytes. -/
structure Envelope where
  chain : UInt8
  timestamp : UInt64
  sender : PublicKey
  fee : UInt64

/-! ## §1. Fields -/

/-- A number of 64 bits. -/
def word64 (n : UInt64) : Bytes :=
  bigEndian 8 n.toNat

/-- A signed number of 32 bits, in two's complement. -/
def int32 (n : Int32) : Bytes :=
  bigEndian 4 n.toUInt32.toNat

/-- A number of 16 bits that counts something. -/
def count (field : SizedField) (n : Nat) : Except TransactionError Bytes :=
  if n ≤ sizeLimit then .ok (bigEndian 2 n) else .error (.fieldTooLong field n)

/-- Bytes behind their length. -/
def sized (field : SizedField) (bytes : Bytes) : Except TransactionError Bytes :=
  match count field bytes.length with
  | .ok length => .ok (length ++ bytes)
  | .error e => .error e

/-- The entries of a mass transfer behind their number. -/
def entries (list : List Entry) : Except TransactionError Bytes :=
  match count .transfers list.length with
  | .ok length =>
    .ok (length ++ list.flatMap fun entry => entry.recipient.bytes ++ word64 entry.amount)
  | .error e => .error e

/-- The bytes of a hash that may be absent. -/
def hashBytes (hash : Option Bytes) : Bytes :=
  hash.getD []

/-! ## §2. Current layouts -/

/-- What all current layouts start with. -/
def header (kind : Kind) (e : Envelope) : Bytes :=
  [kind.typeId, Version.v3.number, e.chain] ++ word64 e.timestamp ++
    [e.sender.keyType.marker] ++ e.sender.bytes ++ word64 e.fee

/-- What follows the header. -/
def payload : Body → Except TransactionError Bytes
  | .transfer recipient amount attachment =>
    return recipient.bytes ++ word64 amount ++ (← sized .attachment attachment)
  | .lease recipient amount => return recipient.bytes ++ word64 amount
  | .cancelLease leaseId => return leaseId.list
  | .massTransfer list attachment =>
    return (← entries list) ++ (← sized .attachment attachment)
  | .setScript script => sized .script script
  -- Anchors are counted on the wire, but a transaction has exactly one.
  | .anchor hash => return bigEndian 2 1 ++ (← sized .anchor hash)
  | .association recipient type hash expires =>
    return recipient.bytes ++ int32 type ++ word64 (expires.getD 0) ++
      (← sized .hash (hashBytes hash))
  | .revokeAssociation recipient type hash =>
    return recipient.bytes ++ int32 type ++ (← sized .hash (hashBytes hash))
  | .sponsorship recipient => return recipient.bytes
  | .cancelSponsorship recipient => return recipient.bytes

/-! ## §3. Older layouts -/

/-- Associations and their withdrawals have one older layout. -/
def legacyAssociation (e : Envelope) (recipient : Address) (type : Int32)
    (hash : Option Bytes) : Except TransactionError Bytes :=
  -- The byte before the hash says that there is one, and says so of an empty one too.
  return [e.chain] ++ e.sender.bytes ++ recipient.bytes ++ int32 type ++ [1] ++
    (← sized .hash (hashBytes hash)) ++ word64 e.timestamp ++ word64 e.fee

/-- Sponsorships and their withdrawals have one older layout. -/
def legacySponsorship (e : Envelope) (recipient : Address) : Bytes :=
  [e.chain] ++ e.sender.bytes ++ recipient.bytes ++ word64 e.timestamp ++ word64 e.fee

/-- What follows kind and version. -/
def legacy (e : Envelope) : Body → Except TransactionError Bytes
  | .transfer recipient amount attachment =>
    return e.sender.bytes ++ word64 e.timestamp ++ word64 amount ++ word64 e.fee ++
      recipient.bytes ++ (← sized .attachment attachment)
  | .lease recipient amount =>
    return [0] ++ e.sender.bytes ++ recipient.bytes ++ word64 amount ++ word64 e.fee ++
      word64 e.timestamp
  | .cancelLease leaseId =>
    return [e.chain] ++ e.sender.bytes ++ word64 e.fee ++ word64 e.timestamp ++ leaseId.list
  | .massTransfer list attachment =>
    return e.sender.bytes ++ (← entries list) ++ word64 e.timestamp ++ word64 e.fee ++
      (← sized .attachment attachment)
  | .setScript script =>
    return [e.chain] ++ e.sender.bytes ++ [1] ++ (← sized .script script) ++ word64 e.fee ++
      word64 e.timestamp
  | .anchor hash =>
    return e.sender.bytes ++ bigEndian 2 1 ++ (← sized .anchor hash) ++ word64 e.timestamp ++
      word64 e.fee
  | .association recipient type hash _ => legacyAssociation e recipient type hash
  | .revokeAssociation recipient type hash => legacyAssociation e recipient type hash
  | .sponsorship recipient => return legacySponsorship e recipient
  | .cancelSponsorship recipient => return legacySponsorship e recipient

/-! ## §4. Encoding -/

/-- Older layouts have room for Ed25519 keys alone. -/
def checkKeyType (kind : Kind) (version : Version) (e : Envelope) :
    Except TransactionError Unit :=
  if version = .v3 ∨ e.sender.keyType = .ed25519 then .ok ()
  else .error (.unsupportedKeyType kind version e.sender.keyType)

/-- The bytes of a body in its envelope. -/
def encode (body : Body) (version : Version) (e : Envelope) : Except TransactionError Bytes := do
  Body.checkVersion body.kind version
  body.checkFits version
  checkKeyType body.kind version e
  if version = .v3 then return header body.kind e ++ (← payload body)
  else return [body.kind.typeId, version.number] ++ (← legacy e body)

end Wallet.Layout
