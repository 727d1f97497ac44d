import Wallet.Proofs.Json.Fields
import Wallet.Transaction.Body

/-!
# Bodies that can be made

A body is reached through one of the functions that make bodies. `Body.Made` lists them, and
`Body.WellFormed` says what they guarantee: amounts that are paid are positive and fit 63 bits, a
mass transfer has at most a hundred entries, and what is absent is never stored as a zero or as
no bytes.
-/

namespace Wallet.Body

/-! ## §1. The two predicates -/

/-- The amounts that can be paid: the positive ones that a signed number of 64 bits can hold. -/
def IsPayable (amount : UInt64) : Prop :=
  1 ≤ amount.toNat ∧ amount.toNat ≤ Int64.maxValue.toInt.toNat

/-- What every body satisfies. -/
def WellFormed : Body → Prop
  | .transfer _ amount _ => IsPayable amount
  | .lease _ amount => IsPayable amount
  | .massTransfer entries _ => entries.length ≤ recipientLimit
  | .association _ _ hash expires => hash ≠ some [] ∧ expires ≠ some 0
  | .revokeAssociation _ _ hash => hash ≠ some []
  | _ => True

/-- The bodies that can be made outside of a document. The clock that an expiry is compared with
may show any time. -/
inductive Made : Body → Prop where
  | transfer {recipient : Address} {amount : Int64} {attachment : Bytes} {body : Body} :
      newTransfer recipient amount attachment = .ok body → Made body
  | lease {recipient : Address} {amount : Int64} {body : Body} :
      newLease recipient amount = .ok body → Made body
  | cancelLease {leaseId : String} {body : Body} :
      newCancelLease leaseId = .ok body → Made body
  | cancelLeaseOfBytes (leaseId : Octets 32) : Made (.cancelLease leaseId)
  | massTransfer {entries : List Entry} {attachment : Bytes} {body : Body} :
      newMassTransfer entries attachment = .ok body → Made body
  | setScript (script : Bytes) : Made (.setScript script)
  | setScriptOfText {text : String} {body : Body} :
      newSetScript text = .ok body → Made body
  | anchor (hash : Bytes) : Made (.anchor hash)
  | association {now : UInt64} {recipient : Address} {type : Int32} {hash : Option Bytes}
      {expires : Option UInt64} {body : Body} :
      newAssociation now recipient type hash expires = .ok body → Made body
  | revokeAssociation (recipient : Address) (type : Int32) (hash : Option Bytes) :
      Made (newRevokeAssociation recipient type hash)
  | sponsorship (recipient : Address) : Made (.sponsorship recipient)
  | cancelSponsorship (recipient : Address) : Made (.cancelSponsorship recipient)

/-! ## §2. What each function makes -/

/-- A positive number is the same in both readings of its 64 bits. -/
theorem toNat_of_positive {amount : Int64} {n : UInt64} (hamount : positive amount = .ok n) :
    0 < amount.toInt ∧ (n.toNat : Int) = amount.toInt := by
  unfold positive at hamount
  split at hamount
  · next hpos =>
    cases hamount
    rw [Int64.lt_iff_toInt_lt, Int64.toInt_zero] at hpos
    -- The sign bit is clear, so both readings agree.
    have hnat : amount.toUInt64.toNat = amount.toInt.toNat :=
      Int64.toNat_toUInt64_of_le (Int64.le_iff_toInt_le.mpr (by simpa using Int.le_of_lt hpos))
    exact ⟨hpos, by omega⟩
  · cases hamount

theorem positive_eq_ok {amount : Int64} {n : UInt64} (hamount : positive amount = .ok n) :
    IsPayable n := by
  obtain ⟨hpos, hnat⟩ := toNat_of_positive hamount
  have hle := amount.toInt_le
  rw [IsPayable]
  omega

theorem newTransfer_eq_ok {recipient : Address} {amount : Int64} {attachment : Bytes}
    {body : Body} (hbody : newTransfer recipient amount attachment = .ok body) :
    body.kind = .transfer ∧ body.WellFormed := by
  unfold newTransfer at hbody
  split at hbody
  · next hamount =>
    cases hbody
    exact ⟨rfl, positive_eq_ok hamount⟩
  · cases hbody

theorem newLease_eq_ok {recipient : Address} {amount : Int64} {body : Body}
    (hbody : newLease recipient amount = .ok body) :
    body.kind = .lease ∧ body.WellFormed := by
  unfold newLease at hbody
  split at hbody
  · next hamount =>
    cases hbody
    exact ⟨rfl, positive_eq_ok hamount⟩
  · cases hbody

theorem newCancelLease_eq_ok {leaseId : String} {body : Body}
    (hbody : newCancelLease leaseId = .ok body) :
    body.kind = .cancelLease ∧ body.WellFormed := by
  unfold newCancelLease at hbody
  split at hbody
  · split at hbody
    · cases hbody
      exact ⟨rfl, trivial⟩
    · cases hbody
  · cases hbody

theorem newMassTransfer_eq_ok_iff {entries : List Entry} {attachment : Bytes} {body : Body} :
    newMassTransfer entries attachment = .ok body ↔
      entries.length ≤ recipientLimit ∧ body = .massTransfer entries attachment := by
  unfold newMassTransfer
  by_cases hmany : recipientLimit < entries.length
  · rw [if_pos hmany]
    exact iff_of_false nofun fun hmade => Nat.not_le_of_lt hmany hmade.1
  · rw [if_neg hmany, Except.ok.injEq, and_iff_right (Nat.le_of_not_lt hmany), eq_comm]

theorem newMassTransfer_eq_ok {entries : List Entry} {attachment : Bytes} {body : Body}
    (hbody : newMassTransfer entries attachment = .ok body) :
    body.kind = .massTransfer ∧ body.WellFormed := by
  obtain ⟨hlength, rfl⟩ := newMassTransfer_eq_ok_iff.mp hbody
  exact ⟨rfl, hlength⟩

theorem newSetScript_eq_ok_iff {text : String} {body : Body} :
    newSetScript text = .ok body ↔
      ∃ script, body = .setScript script ∧ Script.ofText text = .ok script := by
  unfold newSetScript
  constructor
  · intro hbody
    split at hbody
    · next script hscript =>
      cases hbody
      exact ⟨script, rfl, hscript⟩
    · cases hbody
  · intro hmade
    obtain ⟨script, rfl, hscript⟩ := hmade
    rw [hscript]

theorem newSetScript_eq_ok {text : String} {body : Body}
    (hbody : newSetScript text = .ok body) :
    body.kind = .setScript ∧ body.WellFormed := by
  obtain ⟨script, rfl, -⟩ := newSetScript_eq_ok_iff.mp hbody
  exact ⟨rfl, trivial⟩

theorem nonEmpty_ne (hash : Option Bytes) : nonEmpty hash ≠ some [] := by
  unfold nonEmpty
  split
  · nofun
  · next hne => exact fun heq => hne heq

theorem nonZero_ne (time : Option UInt64) : nonZero time ≠ some 0 := by
  unfold nonZero
  split
  · nofun
  · next hne => exact fun heq => hne heq

theorem wellFormed_assumedAssociation (recipient : Address) (type : Int32)
    (hash : Option Bytes) (expires : Option UInt64) :
    (assumedAssociation recipient type hash expires).WellFormed :=
  ⟨nonEmpty_ne hash, nonZero_ne expires⟩

theorem wellFormed_newRevokeAssociation (recipient : Address) (type : Int32)
    (hash : Option Bytes) : (newRevokeAssociation recipient type hash).WellFormed :=
  nonEmpty_ne hash

/-- Whatever the clock shows, the association that is made is the one that was asked for. -/
theorem newAssociation_eq_ok {now : UInt64} {recipient : Address} {type : Int32}
    {hash : Option Bytes} {expires : Option UInt64} {body : Body}
    (hbody : newAssociation now recipient type hash expires = .ok body) :
    body = assumedAssociation recipient type hash expires := by
  unfold newAssociation at hbody
  split at hbody
  · split at hbody
    · cases hbody
    · cases hbody
      rfl
  · cases hbody
    rfl

/-- **What can be made is well-formed.** -/
theorem Made.wellFormed {body : Body} (hmade : Made body) : body.WellFormed := by
  cases hmade with
  | transfer hbody => exact (newTransfer_eq_ok hbody).2
  | lease hbody => exact (newLease_eq_ok hbody).2
  | cancelLease hbody => exact (newCancelLease_eq_ok hbody).2
  | cancelLeaseOfBytes leaseId => exact trivial
  | massTransfer hbody => exact (newMassTransfer_eq_ok hbody).2
  | setScript script => exact trivial
  | setScriptOfText hbody => exact (newSetScript_eq_ok hbody).2
  | anchor hash => exact trivial
  | association hbody =>
    -- The clock decides whether the body is made, not what it is.
    rw [newAssociation_eq_ok hbody]
    exact wellFormed_assumedAssociation ..
  | revokeAssociation recipient type hash =>
    exact wellFormed_newRevokeAssociation recipient type hash
  | sponsorship recipient => exact trivial
  | cancelSponsorship recipient => exact trivial

/-! ## §3. Making a body again -/

theorem IsPayable.bounds {amount : UInt64} (hpayable : IsPayable amount) :
    Int64.minValue.toInt ≤ amount.toNat ∧ amount.toNat ≤ Int64.maxValue.toInt := by
  obtain ⟨-, hle⟩ := hpayable
  have hmin : Int64.minValue.toInt ≤ 0 := by decide
  have hmax : 0 ≤ Int64.maxValue.toInt := by decide
  omega

/-- A payable amount is read as a signed number and paid again. -/
theorem positive_ofInt {amount : UInt64} (hpayable : IsPayable amount) :
    positive (Int64.ofInt amount.toNat) = .ok amount := by
  -- The bounds keep the sign bit clear, so the amount survives as a signed number.
  have hvalue : (Int64.ofInt amount.toNat).toInt = amount.toNat :=
    Json.toInt_ofInt hpayable.bounds.1 hpayable.bounds.2
  have hpositive : 0 < Int64.ofInt amount.toNat := by
    rw [Int64.lt_iff_toInt_lt, Int64.toInt_zero, hvalue]
    exact Int.natCast_pos.mpr hpayable.1
  rw [positive, if_pos hpositive]
  congr 1
  apply UInt64.toNat_inj.mp
  rw [Int64.toNat_toUInt64_of_le (Int64.le_of_lt hpositive), Int64.toNatClampNeg, hvalue]
  rfl

theorem nonZero_of_ne {time : Option UInt64} (hne : time ≠ some 0) : nonZero time = time := by
  unfold nonZero
  split
  · exact absurd rfl hne
  · rfl

theorem nonEmpty_of_ne {hash : Option Bytes} (hne : hash ≠ some []) : nonEmpty hash = hash := by
  unfold nonEmpty
  split
  · exact absurd rfl hne
  · rfl

/-- A hash can be stored as its bytes, of which there are none if it is absent. -/
theorem nonEmpty_getD {hash : Option Bytes} (hne : hash ≠ some []) :
    nonEmpty (some (hash.getD [])) = hash := by
  cases hash with
  | none => rfl
  | some bytes => exact nonEmpty_of_ne hne

/-- A time can be stored as a number, which is zero if it is absent. -/
theorem nonZero_getD {time : Option UInt64} (hne : time ≠ some 0) :
    nonZero (some (time.getD 0)) = time := by
  cases time with
  | none => rfl
  | some n => exact nonZero_of_ne hne

/-! ## §4. Fees and layouts -/

/-- Only a mass transfer computes its fee. -/
theorem fee_of_kind_ne {body : Body} (hkind : body.kind ≠ .massTransfer)
    (override : Option UInt64) : body.fee override = .ok (override.getD body.kind.defaultFee) := by
  cases body with
  | massTransfer entries attachment => exact absurd rfl hkind
  | _ => rfl

theorem checkFits_eq_ok_iff {body : Body} {version : Version} :
    body.checkFits version = .ok () ↔ body.fits version = true := by
  unfold checkFits
  by_cases hfits : body.fits version = true <;> simp [hfits]

theorem checkVersion_eq_ok_iff {kind : Kind} {version : Version} :
    checkVersion kind version = .ok () ↔ kind.supports version = true := by
  unfold checkVersion
  by_cases hsupports : kind.supports version = true <;> simp [hsupports]

end Wallet.Body
