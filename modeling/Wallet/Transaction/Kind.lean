/-!
# Kinds and versions

What a transaction does is its kind, and how its bytes are laid out is its version. Both sets are
closed. Every kind has the current version 3 and one older layout: version 2 for the three oldest
kinds, version 1 for the others.
-/

namespace Wallet

/-- What a transaction does. -/
inductive Kind where
  /-- Pay one recipient. -/
  | transfer
  /-- Lend tokens to a node. -/
  | lease
  /-- End a lease. -/
  | cancelLease
  /-- Pay many recipients at once. -/
  | massTransfer
  /-- Attach a script to the account. -/
  | setScript
  /-- Record a hash. -/
  | anchor
  /-- Record a relationship to another account. -/
  | association
  /-- Withdraw an association. -/
  | revokeAssociation
  /-- Offer to pay the fees of another account. -/
  | sponsorship
  /-- Withdraw a sponsorship. -/
  | cancelSponsorship
  deriving DecidableEq

/-- The layout of the signed bytes. -/
inductive Version where
  | v1
  | v2
  | v3
  deriving DecidableEq

namespace Version

def all : List Version := [.v1, .v2, .v3]

/-- The byte of a version. -/
def number : Version → UInt8
  | .v1 => 1
  | .v2 => 2
  | .v3 => 3

/-- The version of a byte. -/
def ofNumber? (number : UInt8) : Option Version :=
  all.find? fun v => v.number = number

@[simp] theorem ofNumber?_number (v : Version) : ofNumber? v.number = some v := by
  cases v <;> decide

end Version

namespace Kind

def all : List Kind :=
  [.transfer, .lease, .cancelLease, .massTransfer, .setScript, .anchor, .association,
    .revokeAssociation, .sponsorship, .cancelSponsorship]

/-- The byte of a kind. -/
def typeId : Kind → UInt8
  | .transfer => 4
  | .lease => 8
  | .cancelLease => 9
  | .massTransfer => 11
  | .setScript => 13
  | .anchor => 15
  | .association => 16
  | .revokeAssociation => 17
  | .sponsorship => 18
  | .cancelSponsorship => 19

/-- The kind of a byte. -/
def ofTypeId? (id : UInt8) : Option Kind :=
  all.find? fun k => k.typeId = id

@[simp] theorem ofTypeId?_typeId (k : Kind) : ofTypeId? k.typeId = some k := by
  cases k <;> decide

def name : Kind → String
  | .transfer => "Transfer"
  | .lease => "Lease"
  | .cancelLease => "CancelLease"
  | .massTransfer => "MassTransfer"
  | .setScript => "SetScript"
  | .anchor => "Anchor"
  | .association => "Association"
  | .revokeAssociation => "RevokeAssociation"
  | .sponsorship => "Sponsorship"
  | .cancelSponsorship => "CancelSponsorship"

/-- The fee in the smallest unit, of which 100 000 000 make a whole. For a mass transfer this is
the base to which every recipient adds. -/
def defaultFee : Kind → UInt64
  | .transfer => 100000000
  | .lease => 100000000
  | .cancelLease => 500000000
  | .massTransfer => 100000000
  | .setScript => 500000000
  | .anchor => 35000000
  | .association => 100000000
  | .revokeAssociation => 100000000
  | .sponsorship => 500000000
  | .cancelSponsorship => 500000000

/-- The older of the two layouts of a kind. -/
def legacyVersion : Kind → Version
  | .transfer => .v2
  | .lease => .v2
  | .cancelLease => .v2
  | _ => .v1

/-- The layouts of a kind, oldest first. -/
def supportedVersions (k : Kind) : List Version :=
  [k.legacyVersion, .v3]

/-- The layout that is used unless another is asked for. -/
def defaultVersion (_ : Kind) : Version := .v3

def supports (k : Kind) (v : Version) : Bool :=
  k.supportedVersions.contains v

end Kind

end Wallet
