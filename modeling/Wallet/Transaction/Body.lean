import Wallet.Transaction.Script

/-!
# Transaction bodies

A body holds what one kind of transaction needs besides sender, fee and time. The functions named
`new…` make bodies and enforce every rule that can be checked without a sender.

An empty hash and an expiry of zero mean that there is none, and are stored as such, so that two
bodies with the same bytes are equal.
-/

namespace Wallet

/-- One payment of a mass transfer. -/
structure Entry where
  recipient : Address
  amount : UInt64
  deriving DecidableEq

/-- The body of a transaction. -/
inductive Body where
  | transfer (recipient : Address) (amount : UInt64) (attachment : Bytes)
  | lease (recipient : Address) (amount : UInt64)
  | cancelLease (leaseId : Octets 32)
  | massTransfer (entries : List Entry) (attachment : Bytes)
  | setScript (script : Bytes)
  | anchor (hash : Bytes)
  | association (recipient : Address) (type : Int32) (hash : Option Bytes)
      (expires : Option UInt64)
  | revokeAssociation (recipient : Address) (type : Int32) (hash : Option Bytes)
  | sponsorship (recipient : Address)
  | cancelSponsorship (recipient : Address)
  deriving DecidableEq

namespace Body

def kind : Body → Kind
  | .transfer .. => .transfer
  | .lease .. => .lease
  | .cancelLease .. => .cancelLease
  | .massTransfer .. => .massTransfer
  | .setScript .. => .setScript
  | .anchor .. => .anchor
  | .association .. => .association
  | .revokeAssociation .. => .revokeAssociation
  | .sponsorship .. => .sponsorship
  | .cancelSponsorship .. => .cancelSponsorship

/-! ## §1. Making bodies -/

/-- An amount that is paid must be positive. -/
def positive (amount : Int64) : Except TransactionError UInt64 :=
  if 0 < amount then .ok amount.toUInt64 else .error (.invalidAmount amount)

def newTransfer (recipient : Address) (amount : Int64) (attachment : Bytes) :
    Except TransactionError Body :=
  match positive amount with
  | .ok amount => .ok (.transfer recipient amount attachment)
  | .error e => .error e

def newLease (recipient : Address) (amount : Int64) : Except TransactionError Body :=
  match positive amount with
  | .ok amount => .ok (.lease recipient amount)
  | .error e => .error e

/-- End the lease of which the text is the id. -/
def newCancelLease (leaseId : String) : Except TransactionError Body :=
  match TransactionError.decodeBase58 leaseId with
  | .ok bytes =>
    match Octets.ofList? 32 bytes with
    | some id => .ok (.cancelLease id)
    | none => .error (.invalidLeaseId bytes.length)
  | .error e => .error e

def newMassTransfer (entries : List Entry) (attachment : Bytes) :
    Except TransactionError Body :=
  if recipientLimit < entries.length then .error (.tooManyRecipients entries.length)
  else .ok (.massTransfer entries attachment)

def newSetScript (text : String) : Except TransactionError Body :=
  match Script.ofText text with
  | .ok script => .ok (.setScript script)
  | .error e => .error e

/-- No bytes at all mean that there are none. -/
def nonEmpty : Option Bytes → Option Bytes
  | some [] => none
  | bytes => bytes

/-- A time of zero means that there is none. -/
def nonZero : Option UInt64 → Option UInt64
  | some 0 => none
  | time => time

/-- An association whose expiry is taken as it is. -/
def assumedAssociation (recipient : Address) (type : Int32) (hash : Option Bytes)
    (expires : Option UInt64) : Body :=
  .association recipient type (nonEmpty hash) (nonZero expires)

/-- An association whose expiry must lie in the future. -/
def newAssociation (now : UInt64) (recipient : Address) (type : Int32) (hash : Option Bytes)
    (expires : Option UInt64) : Except TransactionError Body :=
  match expires with
  | some time =>
    if time ≤ now then .error (.invalidExpiry time now)
    else .ok (assumedAssociation recipient type hash expires)
  | none => .ok (assumedAssociation recipient type hash none)

def newRevokeAssociation (recipient : Address) (type : Int32) (hash : Option Bytes) : Body :=
  .revokeAssociation recipient type (nonEmpty hash)

/-! ## §2. Fees and layouts -/

/-- The fee of a mass transfer: the base and a tenth of it per recipient. The product is formed
in 64 bits, and so is the sum. -/
def massFee (base : UInt64) (recipients : Nat) : Except TransactionError UInt64 :=
  -- `extra` is divided after multiplying, so it may not fit although a tenth of it would.
  let extra := recipients * base.toNat
  let total := base.toNat + extra / 10
  if extra < UInt64.size ∧ total < UInt64.size then .ok (UInt64.ofNat total)
  else .error (.invalidFee base recipients)

/-- The fee of a body, given what replaces the default of its kind. -/
def fee (body : Body) (override : Option UInt64) : Except TransactionError UInt64 :=
  let base := override.getD body.kind.defaultFee
  match body with
  | .massTransfer entries _ => massFee base entries.length
  | _ => .ok base

/-- Only the current layout of an association has room for an expiry. -/
def fits : Body → Version → Bool
  | .association _ _ _ (some _), version => version = .v3
  | _, _ => true

/-- Demand that a kind has a layout. -/
def checkVersion (kind : Kind) (version : Version) : Except TransactionError Unit :=
  if kind.supports version then .ok () else .error (.unsupportedVersion kind version)

/-- Demand that a layout has room for everything in a body. -/
def checkFits (body : Body) (version : Version) : Except TransactionError Unit :=
  if body.fits version then .ok () else .error (.expiryNotSupported body.kind version)

end Body

end Wallet
