import Wallet.Proofs.Transaction.Encoding

/-!
# Which proofs are checked

Verifying looks at the two ends of the list of proofs and nowhere else. The first proof has to
verify under the key of the sender (`SenderProved`). If there is a sponsor, the last one has to
verify under the key of the sponsor, and it has to be another proof than the first
(`SponsorProved`). Both are over the bytes of the transaction, so there is an answer exactly if
there are bytes.

Whatever stands between the ends is the co-signers' and makes no difference (`SameEnds`): the keys
of co-signers are not recorded, so there is nothing to check their proofs against.
-/

namespace Wallet

/-- Several signatures pass if each of them does. -/
theorem isOk_verifyAll (items : List (PublicKey × Bytes × Signature)) :
    (verifyAll items).isOk = true ↔
      ∀ item ∈ items, item.1.verify item.2.1 item.2.2 = true := by
  rw [← List.all_eq_true, verifyAll]
  split
  · next hall => exact iff_of_true rfl hall
  · next hfails => exact iff_of_false Bool.false_ne_true hfails

namespace Transaction

/-! ## §1. The two ends -/

/-- The first proof verifies over a message under the key of the sender. -/
def SenderProved (tx : Transaction) (message : Bytes) : Prop :=
  ∃ sender proof, tx.sender? = some sender ∧ tx.proofs.head? = some proof ∧
    sender.publicKey.verify message proof = true

/-- If there is a sponsor, there are at least two proofs, and the last one verifies over a message
under the key of the sponsor. -/
def SponsorProved (tx : Transaction) (message : Bytes) : Prop :=
  ∀ sponsor, tx.sponsor? = some sponsor → 2 ≤ tx.proofs.length ∧
    ∃ proof, tx.proofs.getLast? = some proof ∧ sponsor.publicKey.verify message proof = true

section Signed

variable {tx : Transaction} {sender sponsor : Signer} {proof sponsorProof : Signature}
  {cosigned : List Signature} {message : Bytes}

theorem senderProved_of_signed (hsigning : tx.signing = .signed sender proof cosigned) :
    tx.SenderProved message ↔ sender.publicKey.verify message proof = true := by
  have hsender : tx.sender? = some sender := by rw [sender?, hsigning]; rfl
  have hfirst : tx.proofs.head? = some proof := by rw [proofs, hsigning]; rfl
  simp [SenderProved, hsender, hfirst]

theorem senderProved_of_sponsored
    (hsigning : tx.signing = .sponsored sender proof cosigned sponsor sponsorProof) :
    tx.SenderProved message ↔ sender.publicKey.verify message proof = true := by
  have hsender : tx.sender? = some sender := by rw [sender?, hsigning]; rfl
  have hfirst : tx.proofs.head? = some proof := by rw [proofs, hsigning]; rfl
  simp [SenderProved, hsender, hfirst]

/-- Without a sponsor nothing is asked of the last proof. -/
theorem sponsorProved_of_signed (hsigning : tx.signing = .signed sender proof cosigned) :
    tx.SponsorProved message := by
  intro sponsor hsponsor
  rw [sponsor?, hsigning] at hsponsor
  cases hsponsor

/-- The first proof is the sender's, so that the sponsor's is the second one at least. -/
theorem two_le_length_proofs (hsponsor : tx.sponsor? = some sponsor) : 2 ≤ tx.proofs.length := by
  unfold sponsor? at hsponsor
  unfold proofs
  cases hsigning : tx.signing with
  | sponsored =>
    rw [Signing.proofs, List.length_cons, List.length_append, List.length_singleton]
    omega
  | _ =>
    rw [hsigning] at hsponsor
    cases hsponsor

/-- The sponsor's proof is the last of the list, however many co-signers there are. -/
theorem sponsorProved_of_sponsored
    (hsigning : tx.signing = .sponsored sender proof cosigned sponsor sponsorProof) :
    tx.SponsorProved message ↔ sponsor.publicKey.verify message sponsorProof = true := by
  have hsponsor : tx.sponsor? = some sponsor := by rw [sponsor?, hsigning]; rfl
  have hproofs : tx.proofs = proof :: (cosigned ++ [sponsorProof]) := by
    rw [proofs, hsigning]
    rfl
  have hlast : tx.proofs.getLast? = some sponsorProof := by
    rw [hproofs, ← List.cons_append, List.getLast?_concat]
  simp [SponsorProved, hsponsor, hlast, two_le_length_proofs hsponsor]

end Signed

/-! ## §2. Answers -/

section Answers

variable {tx : Transaction}

/-- A transaction without a sender has no bytes. -/
theorem encode_of_unsigned (hsigning : tx.signing = .unsigned) :
    tx.encode = .error .missingSender := by
  rw [encode, encodeAs, sender?, hsigning]
  rfl

theorem verifySender_eq_ok_iff {answer : Bool} :
    tx.verifySender = .ok answer ↔
      ∃ message, tx.encode = .ok message ∧ (answer = true ↔ tx.SenderProved message) := by
  unfold verifySender
  cases hsigning : tx.signing with
  | unsigned => simp [encode_of_unsigned hsigning]
  | signed sender proof cosigned =>
    exact bind_bool_eq_ok fun message => senderProved_of_signed hsigning
  | sponsored sender proof cosigned sponsor sponsorProof =>
    exact bind_bool_eq_ok fun message => senderProved_of_sponsored hsigning

theorem verify_eq_ok_iff {answer : Bool} :
    tx.verify = .ok answer ↔
      ∃ message, tx.encode = .ok message ∧
        (answer = true ↔ tx.SenderProved message ∧ tx.SponsorProved message) := by
  unfold verify
  cases hsigning : tx.signing with
  | unsigned => simp [encode_of_unsigned hsigning]
  | signed sender proof cosigned =>
    refine bind_bool_eq_ok fun message => ?_
    -- There is one signature to check.
    rw [and_iff_left (sponsorProved_of_signed hsigning), senderProved_of_signed hsigning,
      isOk_verifyAll]
    simp
  | sponsored sender proof cosigned sponsor sponsorProof =>
    refine bind_bool_eq_ok fun message => ?_
    -- There are two.
    rw [senderProved_of_sponsored hsigning, sponsorProved_of_sponsored hsigning, isOk_verifyAll]
    simp

/-- There is no answer if there is no sender, or if the bytes cannot be made. -/
def NoAnswer (tx : Transaction) (e : TransactionError) : Prop :=
  (tx.sender? = none ∧ e = .missingSender) ∨ (tx.sender?.isSome = true ∧ tx.encode = .error e)

theorem encode_eq_error_iff {e : TransactionError} : tx.encode = .error e ↔ tx.NoAnswer e := by
  cases hsender : tx.sender? with
  | none =>
    have hencode : tx.encode = .error .missingSender := by rw [encode, encodeAs, hsender]
    simp [NoAnswer, hsender, hencode, eq_comm]
  | some sender => simp [NoAnswer, hsender]

end Answers

/-! ## §3. Proofs between the ends -/

/-- Two transactions differ in nothing but proofs that are neither the sender's nor the
sponsor's: in any that follow the first or, if there is a sponsor, in any between the first and
the last. -/
structure SameEnds (tx other : Transaction) : Prop where
  body : other.body = tx.body
  version : other.version = tx.version
  fee : other.fee = tx.fee
  timestamp : other.timestamp = tx.timestamp
  sender : other.sender? = tx.sender?
  sponsor : other.sponsor? = tx.sponsor?
  first : other.proofs.head? = tx.proofs.head?
  last : tx.sponsor?.isSome = true → other.proofs.getLast? = tx.proofs.getLast?

section SameEnds

variable {tx other : Transaction} (hsame : SameEnds tx other) {message : Bytes}

include hsame

/-- The proofs are no part of the bytes. -/
theorem SameEnds.encode_eq : other.encode = tx.encode := by
  have hother : other = { tx with signing := other.signing } := by
    obtain ⟨body, version, fee, timestamp, signing⟩ := other
    obtain ⟨rfl, rfl, rfl, rfl, -, -, -, -⟩ := hsame
    rfl
  rw [hother]
  exact encode_eq_of_sender_eq hsame.sender

theorem SameEnds.senderProved_iff : other.SenderProved message ↔ tx.SenderProved message := by
  unfold SenderProved
  rw [hsame.sender, hsame.first]

/-- With a sponsor the last proof is the same, and there are two proofs on both sides. -/
theorem SameEnds.sponsorProved_iff : other.SponsorProved message ↔ tx.SponsorProved message := by
  cases hsponsor : tx.sponsor? with
  | none => simp [SponsorProved, hsame.sponsor, hsponsor]
  | some sponsor =>
    have hother : other.sponsor? = some sponsor := hsame.sponsor.trans hsponsor
    have hlast : other.proofs.getLast? = tx.proofs.getLast? :=
      hsame.last (by rw [hsponsor]; rfl)
    simp [SponsorProved, hsponsor, hother, hlast, two_le_length_proofs hsponsor,
      two_le_length_proofs hother]

theorem SameEnds.verifySender_eq : other.verifySender = tx.verifySender := by
  refine ext_outcome (fun answer => ?_) fun e => ?_
  · simp only [verifySender_eq_ok_iff, hsame.encode_eq, hsame.senderProved_iff]
  · rw [verifySender_eq_error_iff, verifySender_eq_error_iff, hsame.encode_eq]

theorem SameEnds.verify_eq : other.verify = tx.verify := by
  refine ext_outcome (fun answer => ?_) fun e => ?_
  · simp only [verify_eq_ok_iff, hsame.encode_eq, hsame.senderProved_iff, hsame.sponsorProved_iff]
  · rw [verify_eq_error_iff, verify_eq_error_iff, hsame.encode_eq]

end SameEnds

/-! ## §4. What is checked -/

/-- Verifying a transaction checks the proofs of sender and sponsor, and these alone. -/
structure ChecksEnds (tx : Transaction) : Prop where
  /-- Only a missing sender and bytes that cannot be made leave it without an answer. -/
  senderFails : ∀ e, tx.verifySender = .error e ↔ tx.NoAnswer e
  fails : ∀ e, tx.verify = .error e ↔ tx.NoAnswer e
  senderAnswers : ∀ message, tx.encode = .ok message →
    ∃ answer, tx.verifySender = .ok answer ∧ (answer = true ↔ tx.SenderProved message)
  answers : ∀ message, tx.encode = .ok message →
    ∃ answer, tx.verify = .ok answer ∧
      (answer = true ↔ tx.SenderProved message ∧ tx.SponsorProved message)
  /-- What passes as a whole passes for the sender. -/
  implies : tx.verify = .ok true → tx.verifySender = .ok true
  /-- The proofs of co-signers make no difference. -/
  between : ∀ other, SameEnds tx other →
    other.verifySender = tx.verifySender ∧ other.verify = tx.verify

/-- **Verifying checks exactly the proofs of the sender and of the sponsor.** -/
theorem checks_ends (tx : Transaction) : ChecksEnds tx := by
  constructor
  case senderFails => exact fun e => verifySender_eq_error_iff.trans encode_eq_error_iff
  case fails => exact fun e => verify_eq_error_iff.trans encode_eq_error_iff
  case senderAnswers =>
    -- Whether a proof verifies is a proposition here, so the answer is its truth value.
    classical
    intro message hencode
    refine ⟨decide (tx.SenderProved message), ?_, decide_eq_true_iff⟩
    exact verifySender_eq_ok_iff.mpr ⟨message, hencode, decide_eq_true_iff⟩
  case answers =>
    classical
    intro message hencode
    refine ⟨decide (tx.SenderProved message ∧ tx.SponsorProved message), ?_, decide_eq_true_iff⟩
    exact verify_eq_ok_iff.mpr ⟨message, hencode, decide_eq_true_iff⟩
  case implies =>
    -- The sender's proof is one of those that are checked.
    intro hverify
    obtain ⟨message, hencode, hproved⟩ := verify_eq_ok_iff.mp hverify
    have hsender : tx.SenderProved message := (hproved.mp rfl).1
    exact verifySender_eq_ok_iff.mpr ⟨message, hencode, iff_of_true rfl hsender⟩
  case between => exact fun other hsame => ⟨hsame.verifySender_eq, hsame.verify_eq⟩

/-- In the sponsored association the proof of the co-signer can be taken out. -/
theorem checks_ends_example : ∃ tx other, Example.draft.run Example.acts = .ok tx ∧
    SameEnds tx other ∧ tx.proofs.length = 3 ∧ other.proofs.length = 2 ∧
    other.verifySender = tx.verifySender ∧ other.verify = tx.verify := by
  obtain ⟨tx, sender, proof, cosigned, sponsor, sponsorProof, hrun, hsigning, hlength⟩ :
      ∃ (tx : Transaction) (sender : Signer) (proof : Signature) (cosigned : List Signature)
        (sponsor : Signer) (sponsorProof : Signature),
        Example.draft.run Example.acts = .ok tx ∧
        tx.signing = .sponsored sender proof cosigned sponsor sponsorProof ∧
        tx.proofs.length = 3 := ⟨_, _, _, _, _, _, rfl, rfl, rfl⟩
  let other : Transaction := { tx with signing := .sponsored sender proof [] sponsor sponsorProof }
  have hsame : SameEnds tx other := by
    constructor
    case last =>
      intro _
      show [proof, sponsorProof].getLast? = tx.signing.proofs.getLast?
      rw [hsigning, Signing.proofs, ← List.cons_append, List.getLast?_concat]
      rfl
    all_goals simp [other, sender?, sponsor?, proofs, hsigning, Signing.sender?, Signing.sponsor?,
      Signing.proofs]
  exact ⟨tx, other, hrun, hsame, hlength, rfl, (checks_ends tx).between other hsame⟩

end Transaction

end Wallet
