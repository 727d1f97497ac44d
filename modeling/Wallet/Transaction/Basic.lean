import Wallet.Transaction.Layout
import Wallet.Account.Basic

/-!
# Transactions

A transaction is a body with version, fee, time and the state of its signing. The state is one of
three: nobody has signed, the sender has and perhaps others with it, or a sponsor has signed last.
Each state holds exactly the parties and proofs it needs, so a sponsor without a sender or a
sender without a proof cannot be written down.
-/

namespace Wallet

/-- A party as a transaction records it. -/
structure Signer where
  address : Address
  publicKey : PublicKey
  deriving DecidableEq

/-- The party that an account stands for. -/
def Account.signer (a : Account) : Signer :=
  ⟨a.address, a.publicKey⟩

/-- Who has signed, and the proofs. -/
inductive Signing where
  | unsigned
  | signed (sender : Signer) (proof : Signature) (cosigned : List Signature)
  | sponsored (sender : Signer) (proof : Signature) (cosigned : List Signature)
      (sponsor : Signer) (sponsorProof : Signature)
  deriving DecidableEq

namespace Signing

def sender? : Signing → Option Signer
  | .unsigned => none
  | .signed sender _ _ => some sender
  | .sponsored sender _ _ _ _ => some sender

def sponsor? : Signing → Option Signer
  | .sponsored _ _ _ sponsor _ => some sponsor
  | _ => none

/-- All proofs in the order of signing: the sender first, the sponsor last. -/
def proofs : Signing → List Signature
  | .unsigned => []
  | .signed _ proof cosigned => proof :: cosigned
  | .sponsored _ proof cosigned _ sponsorProof => proof :: (cosigned ++ [sponsorProof])

/-- The name of the state. -/
def name : Signing → String
  | .unsigned => "Unsigned"
  | .signed .. => "SenderSigned"
  | .sponsored .. => "FullySigned"

end Signing

/-- A transaction. -/
structure Transaction where
  body : Body
  version : Version
  fee : UInt64
  /-- Milliseconds since 1970; set when the sender signs, unless it was given before. -/
  timestamp : Option UInt64
  signing : Signing
  deriving DecidableEq

/-- What may be asked for when a transaction is made. -/
structure Options where
  version : Option Version
  /-- Replaces the default fee of the kind, for a mass transfer the base. -/
  fee : Option UInt64
  timestamp : Option UInt64

namespace Options

/-- Nothing is asked for. -/
def none : Options :=
  ⟨.none, .none, .none⟩

/-- The version to use for a kind. -/
def resolveVersion (choice : Option Version) (kind : Kind) : Except TransactionError Version :=
  match choice with
  | .none => .ok kind.defaultVersion
  | some version =>
    if kind.supports version then .ok version else .error (.unsupportedVersion kind version)

end Options

namespace Transaction

/-- Make an unsigned transaction. -/
def create (body : Body) (options : Options) : Except TransactionError Transaction := do
  let version ← Options.resolveVersion options.version body.kind
  body.checkFits version
  let fee ← body.fee options.fee
  return ⟨body, version, fee, options.timestamp, .unsigned⟩

def kind (tx : Transaction) : Kind :=
  tx.body.kind

def sender? (tx : Transaction) : Option Signer :=
  tx.signing.sender?

def sponsor? (tx : Transaction) : Option Signer :=
  tx.signing.sponsor?

def proofs (tx : Transaction) : List Signature :=
  tx.signing.proofs

/-- The chain, which is that of the sender. -/
def chainId? (tx : Transaction) : Option Char :=
  tx.sender?.map fun s => s.address.chainId

/-- What surrounds the body once the sender is known. A time that is not set counts as zero. -/
def envelope (tx : Transaction) (sender : Signer) : Layout.Envelope :=
  ⟨sender.address.chainByte, tx.timestamp.getD 0, sender.publicKey, tx.fee⟩

/-- The signed bytes with a given sender and version. -/
def encodeFor (tx : Transaction) (sender : Signer) (version : Version) :
    Except TransactionError Bytes :=
  Layout.encode tx.body version (tx.envelope sender)

/-- The signed bytes in a given version. -/
def encodeAs (tx : Transaction) (version : Version) : Except TransactionError Bytes :=
  match tx.sender? with
  | some sender => tx.encodeFor sender version
  | none => .error .missingSender

/-- The signed bytes. -/
def encode (tx : Transaction) : Except TransactionError Bytes :=
  tx.encodeAs tx.version

/-- The id: base58 of the hash of the signed bytes. -/
def id (tx : Transaction) : Except TransactionError String := do
  return Base58.encode (Hash.blake2b256 (← tx.encode)).list

end Transaction

end Wallet
