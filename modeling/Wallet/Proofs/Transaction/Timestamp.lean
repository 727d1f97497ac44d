import Wallet.Proofs.Transaction.RoundTrip
import Wallet.Proofs.Transaction.Runs

/-!
# Where a signed transaction gets its time

The first signature gives a transaction a time, and no later one takes it away. A document may
name a sender and no time, though, and reading it gives a signed transaction of which the bytes
say zero and the document nothing (`Undated`). An act neither makes nor mends such a transaction
(`Signs.undated_iff`), so every one of them goes back to such a document (`undated_iff_read`).
-/

namespace Wallet.Transaction

/-- A transaction that is signed and has no time. -/
def Undated (tx : Transaction) : Prop :=
  tx.signing ≠ .unsigned ∧ tx.timestamp = none

/-! ## §1. Signing -/

theorem not_undated_of_unsigned {tx : Transaction} (hunsigned : tx.signing = .unsigned) :
    ¬ tx.Undated :=
  fun hundated => hundated.1 hunsigned

/-- The first to sign sets the time, and nobody after it touches the time. -/
theorem Signs.undated_iff {tx next : Transaction} {a : Act} (hsigns : Signs tx a next) :
    next.Undated ↔ tx.Undated := by
  cases hsigns with
  | first hunsigned hpair hmessage =>
    constructor
    · rintro ⟨-, hnone⟩
      cases hnone
    · exact fun hundated => absurd hundated (not_undated_of_unsigned hunsigned)
  | cosign hsigned hpair hmessage => simp [Undated, hsigned]
  | sponsor hsigned hpair hmessage => simp [Undated, hsigned]

/-- No run makes an undated transaction, or gives one a time. -/
theorem undated_run_iff {acts : List Act} {tx last : Transaction}
    (hrun : tx.run acts = .ok last) : last.Undated ↔ tx.Undated := by
  induction acts generalizing tx with
  | nil =>
    cases hrun
    exact Iff.rfl
  | cons a rest ih =>
    obtain ⟨next, hsigns, hrest⟩ := run_cons_eq_ok_iff.mp hrun
    rw [ih hrest, hsigns.undated_iff]

/-! ## §2. Reading -/

theorem signing_ne_unsigned_iff {tx : Transaction} :
    tx.signing ≠ .unsigned ↔ tx.sender?.isSome = true := by
  unfold sender?
  cases tx.signing <;> simp [Signing.sender?]

/-- There is a sender exactly if its public key is given. -/
theorem isSome_of_readSigner {fields : Fields} {role : Role} {chain : Option Char}
    {signer : Option Signer} (hread : readSigner fields role chain = .ok signer) :
    signer.isSome = (optional fields role.keyField).isSome := by
  unfold readSigner at hread
  split at hread
  · next hkey =>
    obtain ⟨known, -, hsome⟩ := bind_eq_ok.mp hread
    cases hsome
    rw [hkey]
    rfl
  · next hkey =>
    rw [hkey]
    split at hread <;> cases hread
    rfl

/-- What a document with a sender and no time is read as. -/
theorem Read.undated_iff {fields : Fields} {tx : Transaction} (hread : Read fields tx) :
    tx.Undated ↔ (optional fields "senderPublicKey").isSome = true ∧
      optional fields "timestamp" = none := by
  have htime := optional_of_optionalUnsigned hread.timestamp
  have hsender : tx.sender?.isSome = (optional fields "senderPublicKey").isSome :=
    isSome_of_readSigner hread.sender
  rw [Undated, signing_ne_unsigned_iff, hsender, htime, Option.map_eq_none_iff]

/-! ## §3. Writing -/

/-- Unless a transaction is undated, it has a time once it is signed, and its bytes and its document
give that time. -/
theorem exists_time {tx : Transaction} (hsigned : tx.signing ≠ .unsigned)
    (hdated : ¬ tx.Undated) : ∃ time, tx.timestamp = some time ∧
      (∀ sender, (tx.envelope sender).timestamp = time) ∧
      optional (Json.collected tx.fields) "timestamp" = some (.natural time.toNat) := by
  have htime : tx.timestamp ≠ none := fun hnone => hdated ⟨hsigned, hnone⟩
  obtain ⟨time, htime⟩ := Option.ne_none_iff_exists'.mp htime
  refine ⟨time, htime, fun sender => ?_, ?_⟩
  · rw [envelope, htime, Option.getD_some]
  · rw [optional_timestamp_fields, htime, Option.map_some]

/-- The bytes of a transaction without a time are those of a transaction of the time zero. -/
theorem encode_at_zero {tx : Transaction} (hnone : tx.timestamp = none) :
    ({ tx with timestamp := some 0 } : Transaction).encode = tx.encode := by
  have henvelope (sender : Signer) :
      ({ tx with timestamp := some 0 } : Transaction).envelope sender = tx.envelope sender := by
    rw [envelope, envelope, hnone]
    rfl
  have hsender : ({ tx with timestamp := some 0 } : Transaction).sender? = tx.sender? := rfl
  simp only [encode, encodeAs, encodeFor, hsender, henvelope]

/-! ## §4. Reachable transactions -/

/-- What was signed here from the start has a time. -/
theorem not_undated_of_run {draft tx : Transaction} {acts : List Act}
    (hunsigned : draft.signing = .unsigned) (hrun : draft.run acts = .ok tx) : ¬ tx.Undated := by
  rw [undated_run_iff hrun]
  exact not_undated_of_unsigned hunsigned

/-- What is undated was undated when it was read. -/
theorem Reachable.exists_read {tx : Transaction} (hreach : Reachable tx) (hundated : tx.Undated) :
    ∃ fields origin acts, ofJson (.object fields) = .ok origin ∧
      (optional fields "senderPublicKey").isSome = true ∧ optional fields "timestamp" = none ∧
      origin.run acts = .ok tx := by
  induction hreach with
  | create hmade hcreate =>
    obtain ⟨-, -, hunsigned, -⟩ := create_eq_ok hcreate
    exact absurd hundated (not_undated_of_unsigned hunsigned)
  | @act tx next a _ hact ih =>
    -- What was undated after the act was undated before it.
    have hbefore : tx.Undated := (act_eq_ok_iff.mp hact).undated_iff.mp hundated
    obtain ⟨fields, origin, acts, hread, hsender, htime, hrun⟩ := ih hbefore
    refine ⟨fields, origin, acts ++ [a], hread, hsender, htime, ?_⟩
    rw [run_append, hrun, ok_bind, run_cons, hact, ok_bind, run_nil]
  | @read document tx hread =>
    obtain ⟨fields, hfields, hfrom⟩ := ofJson_eq_ok_iff.mp hread
    obtain ⟨hsender, htime⟩ := hfrom.undated_iff.mp hundated
    rw [Json.eq_object_of_asObject? hfields] at hread
    exact ⟨fields, tx, [], hread, hsender, htime, rfl⟩

/-- **A signed transaction has a time unless it goes back to a document without one**: one that
names a sender, and that was read and then perhaps signed on. Where the first signature is made
here, there is a time, and bytes and document give it. -/
theorem undated_iff_read {tx : Transaction} (hreach : Reachable tx) :
    (tx.Undated ↔ ∃ fields origin acts, ofJson (.object fields) = .ok origin ∧
      (optional fields "senderPublicKey").isSome = true ∧ optional fields "timestamp" = none ∧
      origin.run acts = .ok tx) ∧
    (∀ (draft : Transaction) (acts : List Act), draft.signing = .unsigned →
      draft.run acts = .ok tx → ¬ tx.Undated) ∧
    (tx.signing ≠ .unsigned → ¬ tx.Undated → ∃ time, tx.timestamp = some time ∧
      (∀ sender, (tx.envelope sender).timestamp = time) ∧
      optional (Json.collected tx.fields) "timestamp" = some (.natural time.toNat)) := by
  refine ⟨⟨hreach.exists_read, ?_⟩, fun draft acts => not_undated_of_run, exists_time⟩
  -- What the document leaves out is missing after reading, and no later signature puts it in.
  rintro ⟨fields, origin, acts, hread, hsender, htime, hrun⟩
  obtain ⟨_, hfields, hfrom⟩ := ofJson_eq_ok_iff.mp hread
  cases hfields
  exact (undated_run_iff hrun).mpr (hfrom.undated_iff.mpr ⟨hsender, htime⟩)

/-! ### An example

An anchor whose sender has signed it at the time zero, in a document that leaves the time out. -/

namespace Example

def undatedFields : Fields :=
  [("anchors", .array [.string "Ldp"]), ("fee", .natural 35000000),
    ("proofs", .array [.string ("3or1b5DYQVuKHDCotunazrm9DDfRrwsjFYWkvnGUputrSrBRC7kAu45TXni4Xvch" ++
      "zRB47sjgVbgEyzR8u8bk6ZPP")]),
    ("sender", .string "3JbvMBoWhRiriw2mn36nRikKmFq3cVdM3U5"),
    ("senderPublicKey", .string "4xFPcLkyfPmFJFj5aF8Kpvmoe9cgGDhcbthDAAtdM4vT"),
    ("type", .natural 15), ("version", .natural 3)]

/-- Whether a document is read as signed by its sender, with bytes that can be made. -/
def readsSigned (document : Json) : Bool :=
  match ofJson document with
  | .ok tx => tx.signing.name == "SenderSigned" && tx.encode.isOk
  | .error _ => false

theorem exists_of_readsSigned {document : Json} (hsigned : readsSigned document = true) :
    ∃ tx, ofJson document = .ok tx ∧ tx.signing.name = "SenderSigned" ∧
      ∃ message, tx.encode = .ok message := by
  unfold readsSigned at hsigned
  split at hsigned
  · next tx hread =>
    obtain ⟨hname, hencode⟩ := Bool.and_eq_true_iff.mp hsigned
    refine ⟨tx, hread, beq_iff_eq.mp hname, ?_⟩
    cases hmessage : tx.encode with
    | ok message => exact ⟨message, rfl⟩
    | error e =>
      rw [hmessage] at hencode
      cases hencode
  · cases hsigned

set_option maxRecDepth 2000 in
theorem exists_read_undatedFields : ∃ tx, ofJson (.object undatedFields) = .ok tx ∧
    tx.signing.name = "SenderSigned" ∧ ∃ message, tx.encode = .ok message :=
  exists_of_readsSigned (by decide +kernel)

theorem undated_of_read {tx : Transaction} (hread : ofJson (.object undatedFields) = .ok tx) :
    tx.Undated := by
  obtain ⟨_, hfields, hfrom⟩ := ofJson_eq_ok_iff.mp hread
  cases hfields
  exact hfrom.undated_iff.mpr ⟨rfl, rfl⟩

end Example

/-- The document of the example is read as a signed transaction without a time. What it is taken
to have signed says zero, and the document written for it says nothing. -/
theorem exists_signed_undated : ∃ tx, Reachable tx ∧ tx.signing.name = "SenderSigned" ∧
    tx.timestamp = none ∧ optional (Json.collected tx.fields) "timestamp" = none ∧
    ∃ message, tx.encode = .ok message ∧
      ({ tx with timestamp := some 0 } : Transaction).encode = .ok message := by
  obtain ⟨tx, hread, hname, message, hmessage⟩ := Example.exists_read_undatedFields
  have hundated := Example.undated_of_read hread
  refine ⟨tx, .read hread, hname, hundated.2, ?_, message, hmessage, ?_⟩
  · rw [optional_timestamp_fields, hundated.2]
    rfl
  · rw [← hmessage, encode_at_zero hundated.2]

/-- It goes back to that document. -/
theorem undated_iff_read_example : ∃ tx, Reachable tx ∧ tx.Undated ∧
    ∃ fields origin acts, ofJson (.object fields) = .ok origin ∧
      (optional fields "senderPublicKey").isSome = true ∧ optional fields "timestamp" = none ∧
      origin.run acts = .ok tx := by
  obtain ⟨tx, hread, -⟩ := Example.exists_read_undatedFields
  have hundated := Example.undated_of_read hread
  exact ⟨tx, .read hread, hundated, (undated_iff_read (.read hread)).1.mp hundated⟩

end Wallet.Transaction
