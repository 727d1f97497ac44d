import Wallet.Proofs.Transaction.Reachable

/-!
# What a mass transfer costs

A mass transfer costs a base and, for every recipient, a tenth of the base, rounded down once. The
base is multiplied by the number of recipients before a tenth is taken. Both this product and the
total are checked, and the fee is refused if either of them does not fit 64 bits.

The documents speak of the total alone (`documentedFee`). With one recipient it makes no
difference, since the product is no more than the base. From two recipients on the product is no
less than the total, so it alone decides, and some totals are refused that would fit
(`Overshoots`).
-/

namespace Wallet

namespace Body

/-! ## §1. Total and product -/

/-- The base and a tenth of it for every recipient, in numbers without a bound. -/
def massTotal (base : UInt64) (recipients : Nat) : Nat :=
  base.toNat + recipients * base.toNat / 10

/-- The fee as it is documented: the total, if 64 bits can hold it. -/
def documentedFee (base : UInt64) (recipients : Nat) : Except TransactionError UInt64 :=
  if massTotal base recipients < UInt64.size then .ok (UInt64.ofNat (massTotal base recipients))
  else .error (.invalidFee base recipients)

/-- The product of base and recipients does not fit 64 bits, although the total does. -/
def Overshoots (base : UInt64) (recipients : Nat) : Prop :=
  UInt64.size ≤ recipients * base.toNat ∧ massTotal base recipients < UInt64.size

/-- A bound on the total, without the quotient. -/
theorem massTotal_lt_iff {base : UInt64} {recipients bound : Nat} :
    massTotal base recipients < bound ↔ (10 + recipients) * base.toNat < 10 * bound := by
  have hsum : massTotal base recipients = (10 + recipients) * base.toNat / 10 := by
    rw [massTotal, Nat.add_mul, Nat.add_comm (10 * base.toNat),
      Nat.add_mul_div_left _ _ (by decide), Nat.add_comm]
  rw [hsum, Nat.div_lt_iff_lt_mul (by decide), Nat.mul_comm bound]

/-- One recipient at most: the product is no more than the base. -/
theorem product_lt_of_le_one {base : UInt64} {recipients : Nat} (hfew : recipients ≤ 1) :
    recipients * base.toNat < UInt64.size :=
  calc recipients * base.toNat ≤ 1 * base.toNat := Nat.mul_le_mul_right _ hfew
    _ = base.toNat := Nat.one_mul _
    _ < UInt64.size := base.toNat_lt

/-- Two recipients at least: the product is no less than the total. -/
theorem massTotal_le_product {base : UInt64} {recipients : Nat} (hmany : 2 ≤ recipients) :
    massTotal base recipients ≤ recipients * base.toNat := by
  have htwo : 2 * base.toNat ≤ recipients * base.toNat := Nat.mul_le_mul_right _ hmany
  rw [massTotal]
  omega

theorem two_le_of_overshoots {base : UInt64} {recipients : Nat}
    (hover : Overshoots base recipients) : 2 ≤ recipients := by
  by_contra hfew
  have hproduct : recipients * base.toNat < UInt64.size := product_lt_of_le_one (by omega)
  exact Nat.not_lt_of_le hover.1 hproduct

/-- For every number of recipients from two on, some base overshoots. The smallest is the one with
which the product reaches 64 bits. -/
theorem exists_overshoots {recipients : Nat} (hmany : 2 ≤ recipients)
    (hlimit : recipients ≤ recipientLimit) : ∃ base, Overshoots base recipients := by
  have hpos : 0 < recipients := by omega
  let least := (UInt64.size + recipients - 1) / recipients
  -- Rounding up reaches the bound, by less than one more recipient's share.
  have hlow : UInt64.size ≤ recipients * least := by
    have hsplit := Nat.div_add_mod (UInt64.size + recipients - 1) recipients
    have hrest := Nat.mod_lt (UInt64.size + recipients - 1) hpos
    change recipients * least + _ = _ at hsplit
    omega
  have hhigh : recipients * least ≤ UInt64.size + recipients - 1 := Nat.mul_div_le _ _
  have hhalf : 2 * least ≤ recipients * least := Nat.mul_le_mul_right _ hmany
  have hsize : UInt64.size = 18446744073709551616 := rfl
  have hlimit' : recipients ≤ 100 := hlimit
  have hbase : (UInt64.ofNat least).toNat = least := by
    rw [UInt64.toNat_ofNat', Nat.mod_eq_of_lt (by omega)]
  refine ⟨UInt64.ofNat least, ?_, ?_⟩
  · rw [hbase]
    exact hlow
  · rw [massTotal_lt_iff, hbase, Nat.add_mul]
    omega

/-! ## §2. The fee -/

theorem massFee_of_product_lt {base : UInt64} {recipients : Nat}
    (hproduct : recipients * base.toNat < UInt64.size) :
    massFee base recipients = documentedFee base recipients := by
  simp only [massFee, documentedFee, massTotal, hproduct, true_and]
  rfl

theorem massFee_of_le_product {base : UInt64} {recipients : Nat}
    (hproduct : UInt64.size ≤ recipients * base.toNat) :
    massFee base recipients = .error (.invalidFee base recipients) := by
  rw [massFee, if_neg (fun hfits => Nat.not_lt_of_le hproduct hfits.1)]

theorem documentedFee_eq_ok_iff {base fee : UInt64} {recipients : Nat} :
    documentedFee base recipients = .ok fee ↔ fee.toNat = massTotal base recipients := by
  unfold documentedFee
  constructor
  · intro hfee
    split at hfee
    · next hfits =>
      cases hfee
      rw [UInt64.toNat_ofNat', Nat.mod_eq_of_lt hfits]
    · cases hfee
  · intro hfee
    rw [← hfee, if_pos fee.toNat_lt, UInt64.ofNat_toNat]

theorem documentedFee_eq_error_iff {base : UInt64} {recipients : Nat} {e : TransactionError} :
    documentedFee base recipients = .error e ↔
      UInt64.size ≤ massTotal base recipients ∧ e = .invalidFee base recipients := by
  unfold documentedFee
  by_cases hfits : massTotal base recipients < UInt64.size
  · simp [hfits]
  · simp [hfits, Nat.le_of_not_lt hfits, eq_comm]

/-- The fee is as documented unless the product overshoots. -/
theorem massFee_eq_documentedFee_iff {base : UInt64} {recipients : Nat} :
    massFee base recipients = documentedFee base recipients ↔ ¬ Overshoots base recipients := by
  by_cases hproduct : recipients * base.toNat < UInt64.size
  · refine iff_of_true (massFee_of_product_lt hproduct) fun hover => ?_
    exact Nat.not_lt_of_le hover.1 hproduct
  · have hlarge := Nat.le_of_not_lt hproduct
    rw [massFee_of_le_product hlarge, eq_comm, documentedFee_eq_error_iff, Overshoots, not_and,
      Nat.not_lt]
    exact ⟨fun htotal _ => htotal.1, fun htotal => ⟨htotal hlarge, rfl⟩⟩

theorem exists_documentedFee_iff {base : UInt64} {recipients : Nat} :
    (∃ fee, documentedFee base recipients = .ok fee) ↔
      massTotal base recipients < UInt64.size := by
  constructor
  · intro hcharged
    obtain ⟨fee, hfee⟩ := hcharged
    rw [← documentedFee_eq_ok_iff.mp hfee]
    exact fee.toNat_lt
  · intro hfits
    exact ⟨_, if_pos hfits⟩

/-- The two ways to a fee: the product fits and the fee is as documented, or there is none. -/
theorem massFee_cases (base : UInt64) (recipients : Nat) :
    (recipients * base.toNat < UInt64.size ∧
        massFee base recipients = documentedFee base recipients) ∨
      (UInt64.size ≤ recipients * base.toNat ∧
        massFee base recipients = .error (.invalidFee base recipients)) := by
  by_cases hproduct : recipients * base.toNat < UInt64.size
  · exact .inl ⟨hproduct, massFee_of_product_lt hproduct⟩
  · have hlarge := Nat.le_of_not_lt hproduct
    exact .inr ⟨hlarge, massFee_of_le_product hlarge⟩

/-- What is charged is the total, and needs both numbers to fit. -/
theorem massFee_eq_ok_iff {base fee : UInt64} {recipients : Nat} :
    massFee base recipients = .ok fee ↔
      recipients * base.toNat < UInt64.size ∧ fee.toNat = massTotal base recipients := by
  rcases massFee_cases base recipients with ⟨hproduct, hfee⟩ | ⟨hlarge, hfee⟩
  · rw [hfee, documentedFee_eq_ok_iff, and_iff_right hproduct]
  · rw [hfee]
    refine iff_of_false nofun fun hcharged => ?_
    exact Nat.not_lt_of_le hlarge hcharged.1

theorem massFee_eq_error_iff {base : UInt64} {recipients : Nat} {e : TransactionError} :
    massFee base recipients = .error e ↔
      (UInt64.size ≤ recipients * base.toNat ∨ UInt64.size ≤ massTotal base recipients) ∧
        e = .invalidFee base recipients := by
  rcases massFee_cases base recipients with ⟨hproduct, hfee⟩ | ⟨hlarge, hfee⟩
  · rw [hfee, documentedFee_eq_error_iff, or_iff_right (Nat.not_le_of_lt hproduct)]
  · rw [hfee, Except.error.injEq, and_iff_right (.inl hlarge), eq_comm]

/-! ## §3. Mass transfers -/

/-- Every version of a mass transfer holds every one, so that only the fee can be refused. -/
theorem create_massTransfer {entries : List Entry} {attachment : Bytes} {options : Options}
    {version : Version}
    (hversion : Options.resolveVersion options.version .massTransfer = .ok version) :
    Transaction.create (.massTransfer entries attachment) options =
      (fee (.massTransfer entries attachment) options.fee).map fun fee =>
        ⟨.massTransfer entries attachment, version, fee, options.timestamp, .unsigned⟩ := by
  have hfits : checkFits (.massTransfer entries attachment) version = .ok () :=
    checkFits_eq_ok_iff.mpr rfl
  rw [Transaction.create]
  simp only [kind, hversion, hfits, ok_bind]
  cases fee (.massTransfer entries attachment) options.fee with
  | error e => rfl
  | ok fee => rfl

/-- What a mass transfer is charged, given what replaces its base. -/
structure ChargesFee (body : Body) (recipients : Nat) (base : UInt64) : Prop where
  /-- The fee is as documented, except where the product overshoots. -/
  documented : body.fee (some base) = documentedFee base recipients ↔ ¬ Overshoots base recipients
  charged : ∀ fee, body.fee (some base) = .ok fee ↔
    recipients * base.toNat < UInt64.size ∧ fee.toNat = massTotal base recipients
  refused : ∀ e, body.fee (some base) = .error e ↔
    (UInt64.size ≤ recipients * base.toNat ∨ UInt64.size ≤ massTotal base recipients) ∧
      e = .invalidFee base recipients
  /-- Some base overshoots exactly if there are two recipients or more. -/
  overshoots : (∃ other, Overshoots other recipients) ↔ 2 ≤ recipients
  /-- From two recipients on the product alone decides. -/
  product : 2 ≤ recipients →
    ((∃ fee, body.fee (some base) = .ok fee) ↔ recipients * base.toNat < UInt64.size)
  /-- Of a transaction nothing but the fee can be refused. -/
  created : ∀ choice time version,
    Options.resolveVersion choice .massTransfer = .ok version →
      Transaction.create body ⟨choice, some base, time⟩ =
        (body.fee (some base)).map fun fee => ⟨body, version, fee, time, .unsigned⟩

/-- **A mass transfer is charged its total, unless the product on the way to it overshoots.** -/
theorem charges_fee {entries : List Entry} {attachment : Bytes} {body : Body}
    (hbody : newMassTransfer entries attachment = .ok body) (base : UInt64) :
    ChargesFee body entries.length base := by
  obtain ⟨hlimit, rfl⟩ := newMassTransfer_eq_ok_iff.mp hbody
  constructor
  case documented => exact massFee_eq_documentedFee_iff
  case charged => exact fun fee => massFee_eq_ok_iff
  case refused => exact fun e => massFee_eq_error_iff
  case overshoots =>
    constructor
    · intro hover
      obtain ⟨other, hover⟩ := hover
      exact two_le_of_overshoots hover
    · exact fun hmany => exists_overshoots hmany hlimit
  case product =>
    intro hmany
    constructor
    · intro hcharged
      obtain ⟨fee, hfee⟩ := hcharged
      exact (massFee_eq_ok_iff.mp hfee).1
    · intro hproduct
      -- The total is no more than the product, so it fits as well.
      have htotal : massTotal base entries.length < UInt64.size :=
        Nat.lt_of_le_of_lt (massTotal_le_product hmany) hproduct
      obtain ⟨fee, hfee⟩ := exists_documentedFee_iff.mpr htotal
      exact ⟨fee, (massFee_of_product_lt hproduct).trans hfee⟩
  case created => exact fun choice time version hversion => create_massTransfer hversion

/-! ### An example

Two recipients and half of what 64 bits can hold. -/

namespace Example

def entry : Entry :=
  ⟨Address.derive (UInt8.ofNat 'T'.toNat) ⟨.ed25519, (Octets.ofNat 32 0).list, rfl⟩, 1⟩

def half : UInt64 := 9223372036854775808

end Example

theorem charges_fee_example : ∃ body, newMassTransfer [Example.entry, Example.entry] [] = .ok body ∧
    ChargesFee body 2 Example.half := by
  have hbody : newMassTransfer [Example.entry, Example.entry] [] =
      .ok (.massTransfer [Example.entry, Example.entry] []) := rfl
  exact ⟨_, hbody, charges_fee hbody Example.half⟩

/-- The total of the example fits, and the fee is refused for the product. -/
theorem exists_total_refused : ∃ body,
    newMassTransfer [Example.entry, Example.entry] [] = .ok body ∧
      massTotal Example.half 2 = 11068046444225730969 ∧
      massTotal Example.half 2 < UInt64.size ∧
      body.fee (some Example.half) = .error (.invalidFee Example.half 2) := by
  have hlarge : UInt64.size ≤ 2 * Example.half.toNat := by decide
  exact ⟨_, rfl, by decide, by decide, massFee_of_le_product hlarge⟩

end Body

end Wallet
