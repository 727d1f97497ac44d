import Wallet.Proofs.Outcome
import Wallet.Transaction.Signing

/-!
# Signing step by step

`Act` is one attempt to sign and `run` makes several of them in order. `Signs` lists the three
ways in which an act can succeed, with everything it demands and everything it changes, and
`act_eq_ok_iff` says that there are no others. What signing preserves is read off that list.
-/

namespace Wallet

/-- One attempt to sign. -/
inductive Act where
  /-- Sign as sender or co-signer, at a time that matters to the sender alone. -/
  | sign (account : Account) (now : UInt64)
  /-- Sign as sponsor. -/
  | sponsor (account : Account)

namespace Act

def account : Act → Account
  | .sign account _ => account
  | .sponsor account => account

end Act

namespace Transaction

/-! ## §1. One act -/

/-- Carry out one act. -/
def act (tx : Transaction) : Act → Except TransactionError Transaction
  | .sign account now => tx.sign account now
  | .sponsor account => tx.sponsor account

/-- Carry out acts in order, up to the first that fails. -/
def run (tx : Transaction) (acts : List Act) : Except TransactionError Transaction :=
  acts.foldlM act tx

/-- The ways in which an act succeeds. -/
inductive Signs (tx : Transaction) : Act → Transaction → Prop where
  /-- The sender signs and fixes the time. -/
  | first {account : Account} {now : UInt64} {pair : KeyPair} {message : Bytes}
      (unsigned : tx.signing = .unsigned) (holds : account.keyPair = some pair)
      (encodes : { tx with timestamp := some (tx.timestamp.getD now) }.encodeFor
        account.signer tx.version = .ok message) :
      Signs tx (.sign account now)
        { tx with
          timestamp := some (tx.timestamp.getD now)
          signing := .signed account.signer (pair.sign message) [] }
  /-- A co-signer adds a proof. -/
  | cosign {account : Account} {now : UInt64} {pair : KeyPair} {message : Bytes}
      {sender : Signer} {proof : Signature} {cosigned : List Signature}
      (signed : tx.signing = .signed sender proof cosigned)
      (holds : account.keyPair = some pair) (encodes : tx.encode = .ok message) :
      Signs tx (.sign account now)
        { tx with signing := .signed sender proof (cosigned ++ [pair.sign message]) }
  /-- The sponsor signs last. -/
  | sponsor {account : Account} {pair : KeyPair} {message : Bytes}
      {sender : Signer} {proof : Signature} {cosigned : List Signature}
      (signed : tx.signing = .signed sender proof cosigned)
      (holds : account.keyPair = some pair) (encodes : tx.encode = .ok message) :
      Signs tx (.sponsor account)
        { tx with
          signing := .sponsored sender proof cosigned account.signer (pair.sign message) }

/-! ### What an act does -/

theorem account_sign_eq_ok {account : Account} {message : Bytes} {proof : Signature} :
    account.sign message = .ok proof ↔
      ∃ pair, account.keyPair = some pair ∧ pair.sign message = proof := by
  unfold Account.sign
  cases account.keyPair with
  | none => simp
  | some pair => simp

/-- A proof is a signature over the bytes, made with that key pair. -/
theorem proofBy_eq_ok {tx : Transaction} {sender : Signer} {account : Account}
    {proof : Signature} :
    tx.proofBy sender account = .ok proof ↔
      ∃ message pair, tx.encodeFor sender tx.version = .ok message ∧
        account.keyPair = some pair ∧ pair.sign message = proof := by
  have hlift (message : Bytes) :
      TransactionError.liftKey (account.sign message) = .ok proof ↔
        ∃ pair, account.keyPair = some pair ∧ pair.sign message = proof := by
    rw [← account_sign_eq_ok]
    cases account.sign message <;> simp [TransactionError.liftKey]
  simp only [proofBy, bind_eq_ok, hlift]
  constructor
  · rintro ⟨message, hmessage, pair, hpair, hproof⟩
    exact ⟨message, pair, hmessage, hpair, hproof⟩
  · rintro ⟨message, pair, hmessage, hpair, hproof⟩
    exact ⟨message, hmessage, pair, hpair, hproof⟩

theorem sender?_of_signed {tx : Transaction} {sender : Signer} {proof : Signature}
    {cosigned : List Signature} (hsigned : tx.signing = .signed sender proof cosigned) :
    tx.sender? = some sender := by
  rw [sender?, hsigned]
  rfl

theorem encode_of_sender {tx : Transaction} {sender : Signer}
    (hsender : tx.sender? = some sender) :
    tx.encode = tx.encodeFor sender tx.version := by
  rw [encode, encodeAs, hsender]

/-- The signed bytes do not depend on the proofs. -/
theorem encode_eq_of_sender_eq {tx : Transaction} {signing : Signing}
    (hsender : signing.sender? = tx.sender?) :
    ({ tx with signing := signing } : Transaction).encode = tx.encode := by
  have hsame : ({ tx with signing := signing } : Transaction).sender? = tx.sender? := hsender
  unfold encode encodeAs
  rw [hsame]
  rfl

theorem sign_eq_ok {tx tx' : Transaction} {account : Account} {now : UInt64}
    (hsign : tx.sign account now = .ok tx') : Signs tx (.sign account now) tx' := by
  unfold sign at hsign
  split at hsign
  · next hunsigned =>
    -- The time is fixed first, so that it is part of what is signed.
    obtain ⟨proof, hproof, htx⟩ := bind_eq_ok.mp hsign
    obtain ⟨message, pair, hmessage, hpair, rfl⟩ := proofBy_eq_ok.mp hproof
    cases htx
    exact .first hunsigned hpair hmessage
  · next hsigned =>
    obtain ⟨proof, hproof, htx⟩ := bind_eq_ok.mp hsign
    obtain ⟨message, pair, hmessage, hpair, rfl⟩ := proofBy_eq_ok.mp hproof
    cases htx
    -- The sender is recorded, so the bytes are those of the transaction.
    refine .cosign hsigned hpair ?_
    rw [encode_of_sender (sender?_of_signed hsigned), hmessage]
  · cases hsign

theorem sponsor_eq_ok {tx tx' : Transaction} {account : Account}
    (hsponsor : tx.sponsor account = .ok tx') : Signs tx (.sponsor account) tx' := by
  unfold Transaction.sponsor at hsponsor
  split at hsponsor
  · cases hsponsor
  · next hsigned =>
    obtain ⟨proof, hproof, htx⟩ := bind_eq_ok.mp hsponsor
    obtain ⟨message, pair, hmessage, hpair, rfl⟩ := proofBy_eq_ok.mp hproof
    cases htx
    refine .sponsor hsigned hpair ?_
    rw [encode_of_sender (sender?_of_signed hsigned), hmessage]
  · cases hsponsor

/-- Each of the three ways is open. -/
theorem Signs.act_eq_ok {tx tx' : Transaction} {a : Act} (hsigns : Signs tx a tx') :
    tx.act a = .ok tx' := by
  cases hsigns with
  | first hunsigned hpair hmessage =>
    simp only [act, sign, hunsigned]
    rw [bind_eq_ok]
    exact ⟨_, proofBy_eq_ok.mpr ⟨_, _, hmessage, hpair, rfl⟩, rfl⟩
  | cosign hsigned hpair hmessage =>
    rw [encode_of_sender (sender?_of_signed hsigned)] at hmessage
    simp only [act, sign, hsigned]
    rw [bind_eq_ok]
    exact ⟨_, proofBy_eq_ok.mpr ⟨_, _, hmessage, hpair, rfl⟩, rfl⟩
  | sponsor hsigned hpair hmessage =>
    rw [encode_of_sender (sender?_of_signed hsigned)] at hmessage
    simp only [act, Transaction.sponsor, hsigned]
    rw [bind_eq_ok]
    exact ⟨_, proofBy_eq_ok.mpr ⟨_, _, hmessage, hpair, rfl⟩, rfl⟩

/-- An act succeeds in one of the three ways and in no other. -/
theorem act_eq_ok_iff {tx tx' : Transaction} {a : Act} :
    tx.act a = .ok tx' ↔ Signs tx a tx' := by
  constructor
  · intro hact
    cases a with
    | sign account now => exact sign_eq_ok hact
    | sponsor account => exact sponsor_eq_ok hact
  · exact Signs.act_eq_ok

/-! ## §2. Runs -/

@[simp] theorem run_nil (tx : Transaction) : tx.run [] = .ok tx := rfl

theorem run_cons_eq_ok_iff {tx tx' : Transaction} {a : Act} {acts : List Act} :
    tx.run (a :: acts) = .ok tx' ↔ ∃ next, Signs tx a next ∧ next.run acts = .ok tx' := by
  simp only [run, List.foldlM_cons, bind_eq_ok, act_eq_ok_iff]

end Transaction

end Wallet
