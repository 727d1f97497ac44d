import Wallet.Transaction.Basic

/-!
# Signing and verifying

The first to sign becomes the sender and fixes the time. Others may sign after it, and a sponsor
may sign last; all sign the same bytes. Nothing can be signed once there is a sponsor.

The sponsor is not part of the signed bytes, so a sponsor's proof says only that its key agreed
to these bytes.
-/

namespace Wallet.Transaction

/-! ## §1. Signing -/

/-- A proof by an account over the bytes of a transaction. -/
def proofBy (tx : Transaction) (sender : Signer) (account : Account) :
    Except TransactionError Signature := do
  let message ← tx.encodeFor sender tx.version
  TransactionError.liftKey (account.sign message)

/-- Sign as the sender or, after the sender, as one of its co-signers. `now` becomes the time of
a transaction that has none when its sender signs. -/
def sign (tx : Transaction) (account : Account) (now : UInt64) :
    Except TransactionError Transaction :=
  match tx.signing with
  | .unsigned => do
    -- The time is part of the signed bytes, so it has to be fixed before the proof is made.
    let timed := { tx with timestamp := some (tx.timestamp.getD now) }
    let proof ← timed.proofBy account.signer account
    return { timed with signing := .signed account.signer proof [] }
  | .signed sender first cosigned => do
    let proof ← tx.proofBy sender account
    return { tx with signing := .signed sender first (cosigned ++ [proof]) }
  | .sponsored .. => .error .alreadySponsored

/-- Sign as the sponsor, who pays the fee. -/
def sponsor (tx : Transaction) (account : Account) : Except TransactionError Transaction :=
  match tx.signing with
  | .unsigned => .error .notYetSigned
  | .signed sender first cosigned => do
    let proof ← tx.proofBy sender account
    return { tx with signing := .sponsored sender first cosigned account.signer proof }
  | .sponsored .. => .error .alreadySponsored

/-! ## §2. Verifying -/

/-- Whether the first proof is the sender's. -/
def verifySender (tx : Transaction) : Except TransactionError Bool :=
  match tx.signing with
  | .unsigned => .error .missingSender
  | .signed sender proof _ => do
    return sender.publicKey.verify (← tx.encode) proof
  | .sponsored sender proof _ _ _ => do
    return sender.publicKey.verify (← tx.encode) proof

/-- Whether the first proof is the sender's and, if there is a sponsor, the last one the
sponsor's. The keys of co-signers are not recorded, so their proofs are not looked at. -/
def verify (tx : Transaction) : Except TransactionError Bool :=
  match tx.signing with
  | .unsigned => .error .missingSender
  | .signed sender proof _ => do
    let message ← tx.encode
    return (verifyAll [(sender.publicKey, message, proof)]).isOk
  | .sponsored sender proof _ sponsor sponsorProof => do
    let message ← tx.encode
    return (verifyAll [(sender.publicKey, message, proof),
      (sponsor.publicKey, message, sponsorProof)]).isOk

end Wallet.Transaction
