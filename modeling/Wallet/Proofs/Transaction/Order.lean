import Wallet.Proofs.Transaction.Layout
import Wallet.Proofs.Transaction.Runs

/-!
# The order of signing

The sender signs first, any number of others after it, and a sponsor last; nobody signs after a
sponsor. `Allowed` says this of whole sequences of acts, and `refusal?` says of a single act why a
state does not admit it. The two meet in `allowed_cons_iff`: an act that succeeds leads from an
order to the rest of that order. By induction over the acts, runs succeed in the allowed orders
and in no others (`run_ordered`).

It is assumed that the bytes can be made at all (`Encodable`): an older layout has no room for
some senders, and then the first signature fails for that reason.
-/

namespace Wallet.Transaction

/-! ## §1. Orders -/

/-- The sequences of acts that are allowed in a state. -/
def Allowed : Signing → List Act → Prop
  | .unsigned, acts => acts = [] ∨ ∃ sender now cosigners sponsor,
      acts = .sign sender now :: laterActs cosigners sponsor
  | .signed .., acts => ∃ cosigners sponsor, acts = laterActs cosigners sponsor
  | .sponsored .., acts => acts = []

/-- Why a state does not admit an act, whoever it is by. -/
def refusal? : Signing → Act → Option TransactionError
  | .unsigned, .sponsor _ => some .notYetSigned
  | .sponsored .., _ => some .alreadySponsored
  | _, _ => none

theorem laterActs_cons (account : Account) (now : UInt64) (cosigners : List (Account × UInt64))
    (sponsor : Option Account) :
    laterActs ((account, now) :: cosigners) sponsor =
      .sign account now :: laterActs cosigners sponsor := rfl

/-- A co-signer in front leaves the rest of an order. -/
theorem exists_sign_cons_eq_laterActs {account : Account} {now : UInt64} {acts : List Act} :
    (∃ cosigners sponsor, .sign account now :: acts = laterActs cosigners sponsor) ↔
      ∃ cosigners sponsor, acts = laterActs cosigners sponsor := by
  constructor
  · rintro ⟨cosigners, sponsor, hacts⟩
    cases cosigners with
    | nil => cases sponsor <;> cases hacts
    | cons c rest =>
      rw [laterActs_cons] at hacts
      exact ⟨rest, sponsor, (List.cons.inj hacts).2⟩
  · rintro ⟨cosigners, sponsor, rfl⟩
    exact ⟨(account, now) :: cosigners, sponsor, rfl⟩

/-- A sponsor in front is the last to act. -/
theorem exists_sponsor_cons_eq_laterActs {account : Account} {acts : List Act} :
    (∃ cosigners sponsor, .sponsor account :: acts = laterActs cosigners sponsor) ↔
      acts = [] := by
  constructor
  · rintro ⟨cosigners, sponsor, hacts⟩
    cases cosigners with
    | nil =>
      cases sponsor with
      | none => cases hacts
      | some last => exact (List.cons.inj hacts).2
    | cons c rest => cases hacts
  · rintro rfl
    exact ⟨[], some account, rfl⟩

theorem allowed_nil (signing : Signing) : Allowed signing [] := by
  cases signing with
  | unsigned => exact .inl rfl
  | signed => exact ⟨[], none, rfl⟩
  | sponsored => rfl

/-- An act that succeeds leads from an order to the rest of it. -/
theorem allowed_cons_iff {tx next : Transaction} {a : Act} {acts : List Act}
    (hsigns : Signs tx a next) :
    Allowed tx.signing (a :: acts) ↔ Allowed next.signing acts := by
  cases hsigns with
  | @first account now pair message hunsigned hpair hmessage =>
    rw [hunsigned]
    constructor
    · rintro (hnil | ⟨sender, time, cosigners, sponsor, hacts⟩)
      · cases hnil
      · exact ⟨cosigners, sponsor, (List.cons.inj hacts).2⟩
    · rintro ⟨cosigners, sponsor, rfl⟩
      exact .inr ⟨account, now, cosigners, sponsor, rfl⟩
  | cosign hsigned hpair hmessage =>
    rw [hsigned]
    exact exists_sign_cons_eq_laterActs
  | sponsor hsigned hpair hmessage =>
    rw [hsigned]
    exact exists_sponsor_cons_eq_laterActs

/-- No order starts with an act that is refused. -/
theorem not_allowed_of_refusal {signing : Signing} {a : Act} {acts : List Act}
    {e : TransactionError} (hrefusal : refusal? signing a = some e) :
    ¬ Allowed signing (a :: acts) := by
  intro hallowed
  cases signing with
  | unsigned =>
    rcases hallowed with hnil | ⟨sender, now, cosigners, sponsor, hacts⟩
    · cases hnil
    · -- An order starts with the sender, whom no state refuses.
      obtain ⟨rfl, -⟩ := List.cons.inj hacts
      cases hrefusal
  | signed => cases a <;> cases hrefusal
  | sponsored => cases hallowed

theorem refusal?_of_allowed {signing : Signing} {a : Act} {acts : List Act}
    (hallowed : Allowed signing (a :: acts)) : refusal? signing a = none := by
  by_contra hsome
  obtain ⟨e, he⟩ := Option.ne_none_iff_exists'.mp hsome
  exact not_allowed_of_refusal he hallowed

/-! ## §2. Single acts -/

/-- A refused act fails for that reason. -/
theorem act_of_refusal {tx : Transaction} {a : Act} {e : TransactionError}
    (hrefusal : refusal? tx.signing a = some e) : tx.act a = .error e := by
  cases hsigning : tx.signing with
  | unsigned =>
    rw [hsigning] at hrefusal
    cases a with
    | sign account now => cases hrefusal
    | sponsor account =>
      cases hrefusal
      rw [act, Transaction.sponsor, hsigning]
  | signed sender proof cosigned =>
    rw [hsigning] at hrefusal
    cases a <;> cases hrefusal
  | sponsored sender proof cosigned sponsor sponsorProof =>
    rw [hsigning] at hrefusal
    cases hrefusal
    cases a with
    | sign account now => rw [act, sign, hsigning]
    | sponsor account => rw [act, Transaction.sponsor, hsigning]

/-- The two reasons for a refusal, and when they arise. -/
theorem refusal?_eq_some {tx : Transaction} {a : Act} {e : TransactionError}
    (hrefusal : refusal? tx.signing a = some e) :
    e = .notYetSigned ∧ tx.signing.name = "Unsigned" ∧ (∃ account, a = .sponsor account) ∨
      e = .alreadySponsored ∧ tx.signing.name = "FullySigned" := by
  cases hsigning : tx.signing with
  | unsigned =>
    rw [hsigning] at hrefusal
    cases a with
    | sign account now => cases hrefusal
    | sponsor account =>
      cases hrefusal
      exact .inl ⟨rfl, rfl, account, rfl⟩
  | signed sender proof cosigned =>
    rw [hsigning] at hrefusal
    cases a <;> cases hrefusal
  | sponsored sender proof cosigned sponsor sponsorProof =>
    rw [hsigning] at hrefusal
    cases hrefusal
    exact .inr ⟨rfl, rfl⟩

/-- An act that is not refused records one proof, over the bytes with the sender that there is or,
before there is one, with the account itself. -/
theorem act_eq_proofBy {tx : Transaction} {a : Act} (hrefusal : refusal? tx.signing a = none) :
    ∃ time, ∃ record : Signature → Transaction, tx.act a =
      { tx with timestamp := time }.proofBy (tx.sender?.getD a.account.signer) a.account >>=
        fun proof => .ok (record proof) := by
  unfold sender?
  cases hsigning : tx.signing with
  | unsigned =>
    cases a with
    | sign account now =>
      refine ⟨some (tx.timestamp.getD now), fun proof => { tx with
        timestamp := some (tx.timestamp.getD now)
        signing := .signed account.signer proof [] }, ?_⟩
      simp only [act, sign, hsigning]
      rfl
    | sponsor account =>
      rw [hsigning] at hrefusal
      cases hrefusal
  | signed first proof cosigned =>
    cases a with
    | sign account now =>
      refine ⟨tx.timestamp, fun added => { tx with
        signing := .signed first proof (cosigned ++ [added]) }, ?_⟩
      simp only [act, sign, hsigning]
      rfl
    | sponsor account =>
      refine ⟨tx.timestamp, fun added => { tx with
        signing := .sponsored first proof cosigned account.signer added }, ?_⟩
      simp only [act, Transaction.sponsor, hsigning]
      rfl
  | sponsored first proof cosigned sponsor sponsorProof =>
    rw [hsigning] at hrefusal
    cases a <;> cases hrefusal

/-- The time does not decide whether the bytes can be made. -/
theorem encodeFor_at {tx : Transaction} {sender : Signer} {message : Bytes}
    (hencodes : tx.encodeFor sender tx.version = .ok message) (time : Option UInt64) :
    ∃ bytes, { tx with timestamp := time }.encodeFor sender tx.version = .ok bytes := by
  obtain ⟨hsupports, hfits, htable, -⟩ := Layout.encode_eq_ok_iff.mp hencodes
  have hroom := Layout.table_fits_iff.mp htable
  exact ⟨_, Layout.encode_eq_ok_iff.mpr ⟨hsupports, hfits, Layout.table_fits_iff.mpr hroom, rfl⟩⟩

/-- The bytes of a transaction can be made for `sender`, who is its sender or, while it has none,
the one who signs first in `acts`. -/
structure Encodable (tx : Transaction) (sender : Signer) (acts : List Act) : Prop where
  encodes : ∃ message, tx.encodeFor sender tx.version = .ok message
  recorded : ∀ s, tx.sender? = some s → s = sender
  starts : tx.sender? = none →
    ∀ account now, acts.head? = some (.sign account now) → account.signer = sender

section Encodable

variable {tx next : Transaction} {sender : Signer} {a : Act} {acts : List Act}

/-- Whatever signs an encodable transaction signs bytes that can be made. -/
theorem Encodable.proofBy (hencodable : Encodable tx sender acts) (account : Account)
    (time : Option UInt64) :
    ∃ message, { tx with timestamp := time }.proofBy sender account =
      TransactionError.liftKey (account.sign message) := by
  obtain ⟨message, hmessage⟩ := hencodable.encodes
  obtain ⟨bytes, hbytes⟩ := encodeFor_at hmessage time
  refine ⟨bytes, ?_⟩
  rw [Transaction.proofBy, hbytes, ok_bind]

/-- Whoever is not refused signs for the sender. -/
theorem Encodable.signer_eq (hencodable : Encodable tx sender (a :: acts))
    (hrefusal : refusal? tx.signing a = none) : tx.sender?.getD a.account.signer = sender := by
  cases hsender : tx.sender? with
  | some recorded => exact hencodable.recorded recorded hsender
  | none =>
    cases a with
    | sign account now => exact hencodable.starts hsender account now rfl
    | sponsor account =>
      -- Without a sender nobody has signed, and then a sponsor is refused.
      unfold sender? at hsender
      cases hsigning : tx.signing <;> rw [hsigning] at hsender hrefusal <;> cases hsender
      cases hrefusal

/-- An act that is not refused needs only a secret. -/
theorem Encodable.act_eq (hencodable : Encodable tx sender (a :: acts))
    (hrefusal : refusal? tx.signing a = none) :
    ∃ message, ∃ record : Signature → Transaction, tx.act a =
      TransactionError.liftKey (a.account.sign message) >>= fun proof => .ok (record proof) := by
  obtain ⟨time, record, hact⟩ := act_eq_proofBy hrefusal
  obtain ⟨message, hproof⟩ := hencodable.proofBy a.account time
  rw [hencodable.signer_eq hrefusal, hproof] at hact
  exact ⟨message, record, hact⟩

/-- An account that holds its key succeeds unless it is refused. -/
theorem Encodable.signs (hencodable : Encodable tx sender (a :: acts))
    (hrefusal : refusal? tx.signing a = none) (hcan : a.account.canSign = true) :
    ∃ next, Signs tx a next := by
  obtain ⟨message, record, hact⟩ := hencodable.act_eq hrefusal
  obtain ⟨pair, -, hproof⟩ := sign_of_canSign hcan message
  rw [hproof] at hact
  exact ⟨_, act_eq_ok_iff.mp hact⟩

/-- An account without its key fails for want of it unless it is refused. -/
theorem Encodable.act_of_readOnly (hencodable : Encodable tx sender (a :: acts))
    (hrefusal : refusal? tx.signing a = none) (hcan : a.account.canSign = false) :
    tx.act a = .error (.key .missingPrivateKey) := by
  obtain ⟨message, record, hact⟩ := hencodable.act_eq hrefusal
  have hnone : a.account.keyPair = none :=
    Option.isNone_iff_eq_none.mp (Option.isSome_eq_false_iff.mp hcan)
  rw [hact, Account.sign, hnone]
  rfl

/-- The bytes can be made after an act as well as before it. -/
theorem Encodable.step (hencodable : Encodable tx sender (a :: acts)) (hsigns : Signs tx a next) :
    Encodable next sender acts := by
  obtain ⟨message, hmessage⟩ := hencodable.encodes
  cases hsigns with
  | @first account now pair bytes hunsigned hpair hbytes =>
    have hnone : tx.sender? = none := by rw [sender?, hunsigned]; rfl
    -- Whoever signs first becomes the sender, and the bytes were made for just that account.
    obtain rfl := hencodable.starts hnone account now rfl
    exact ⟨⟨bytes, hbytes⟩, fun s hs => (Option.some.inj hs).symm, fun hnone => by cases hnone⟩
  | cosign hsigned hpair hbytes =>
    -- The sender is recorded already and stays the same.
    have hsender := hencodable.recorded _ (sender?_of_signed hsigned)
    exact ⟨⟨message, hmessage⟩, fun s hs => (Option.some.inj hs).symm.trans hsender,
      fun hnone => by cases hnone⟩
  | sponsor hsigned hpair hbytes =>
    have hsender := hencodable.recorded _ (sender?_of_signed hsigned)
    exact ⟨⟨message, hmessage⟩, fun s hs => (Option.some.inj hs).symm.trans hsender,
      fun hnone => by cases hnone⟩

end Encodable

/-- An act that succeeds adds one proof behind those there are. -/
theorem Signs.proofs {tx next : Transaction} {a : Act} (hsigns : Signs tx a next) :
    ∃ proof, next.proofs = tx.proofs ++ [proof] := by
  unfold Transaction.proofs
  cases hsigns with
  | first hunsigned hpair hmessage => exact ⟨_, by rw [hunsigned]; rfl⟩
  | cosign hsigned hpair hmessage => exact ⟨_, by rw [hsigned]; rfl⟩
  | sponsor hsigned hpair hmessage => exact ⟨_, by rw [hsigned]; rfl⟩

/-! ## §3. Runs -/

section Runs

variable {tx : Transaction} {sender : Signer} {acts done later : List Act}

/-- The part of an order that accounts with their keys start with succeeds, and leaves the rest
of the order to the next. -/
theorem run_of_allowed (hencodable : Encodable tx sender (done ++ later))
    (hcan : ∀ a ∈ done, a.account.canSign = true) (hallowed : Allowed tx.signing (done ++ later)) :
    ∃ mid, tx.run done = .ok mid ∧ Encodable mid sender later ∧ Allowed mid.signing later := by
  -- Each step leaves the transaction encodable and the rest of the order allowed.
  induction done generalizing tx with
  | nil => exact ⟨tx, rfl, hencodable, hallowed⟩
  | cons a rest ih =>
    obtain ⟨next, hsigns⟩ := hencodable.signs (refusal?_of_allowed hallowed) (hcan a (by simp))
    obtain ⟨mid, hrun, hmid⟩ := ih (hencodable.step hsigns)
      (fun b hb => hcan b (List.mem_cons_of_mem _ hb)) ((allowed_cons_iff hsigns).mp hallowed)
    exact ⟨mid, run_cons_eq_ok_iff.mpr ⟨next, hsigns, hrun⟩, hmid⟩

/-- A run of accounts with their keys that leaves the orders is refused at the first act that
does so. -/
theorem exists_refused (hencodable : Encodable tx sender acts)
    (hcan : ∀ a ∈ acts, a.account.canSign = true) (hallowed : ¬ Allowed tx.signing acts) :
    ∃ done a rest mid e, acts = done ++ a :: rest ∧ Allowed tx.signing done ∧
      ¬ Allowed tx.signing (done ++ [a]) ∧ tx.run done = .ok mid ∧
      refusal? mid.signing a = some e := by
  -- The first refusal is met by the head or, once the head has acted, among the others.
  induction acts generalizing tx with
  | nil => exact absurd (allowed_nil _) hallowed
  | cons a rest ih =>
    cases hrefusal : refusal? tx.signing a with
    | some e =>
      exact ⟨[], a, rest, tx, e, rfl, allowed_nil _, not_allowed_of_refusal hrefusal, rfl,
        hrefusal⟩
    | none =>
      -- The act succeeds, so the first to be refused is among the rest.
      obtain ⟨next, hsigns⟩ := hencodable.signs hrefusal (hcan a (by simp))
      obtain ⟨done, b, others, mid, e, rfl, hdone, hstop, hrun, he⟩ := ih (hencodable.step hsigns)
        (fun c hc => hcan c (List.mem_cons_of_mem _ hc))
        (fun hrest => hallowed ((allowed_cons_iff hsigns).mpr hrest))
      exact ⟨a :: done, b, others, mid, e, rfl, (allowed_cons_iff hsigns).mpr hdone,
        fun hmore => hstop ((allowed_cons_iff hsigns).mp hmore),
        run_cons_eq_ok_iff.mpr ⟨next, hsigns, hrun⟩, he⟩

/-- A run ends with the first act that fails. -/
theorem run_of_act_error {mid : Transaction} {a : Act} {e : TransactionError}
    (hrun : tx.run done = .ok mid) (hact : mid.act a = .error e) :
    tx.run (done ++ a :: later) = .error e := by
  rw [run_append, hrun, ok_bind, run_cons, hact, error_bind]

end Runs

/-- What the order of acts says about how a run of them ends. -/
structure Ordered (tx : Transaction) (acts : List Act) : Prop where
  /-- Accounts that hold their keys succeed in the allowed orders and in no others. -/
  succeeds : (∀ a ∈ acts, a.account.canSign = true) →
    ((∃ tx', tx.run acts = .ok tx') ↔ Allowed tx.signing acts)
  /-- Otherwise the first act that is not allowed fails: with one error as a sponsor before the
  sender, with the other as anyone after a sponsor. -/
  refused : (∀ a ∈ acts, a.account.canSign = true) → ¬ Allowed tx.signing acts →
    ∃ done a rest mid e, acts = done ++ a :: rest ∧ Allowed tx.signing done ∧
      ¬ Allowed tx.signing (done ++ [a]) ∧ tx.run done = .ok mid ∧ mid.act a = .error e ∧
      tx.run acts = .error e ∧ (e = .notYetSigned ∨ e = .alreadySponsored) ∧
      (e = .notYetSigned ↔
        mid.signing.name = "Unsigned" ∧ ∃ account, a = .sponsor account) ∧
      (e = .alreadySponsored ↔ mid.signing.name = "FullySigned")
  /-- An account without its key fails for want of it where the order allows it to act. -/
  readOnly : ∀ done a rest, acts = done ++ a :: rest →
    (∀ b ∈ done, b.account.canSign = true) → a.account.canSign = false →
    Allowed tx.signing (done ++ [a]) → tx.run acts = .error (.key .missingPrivateKey)
  /-- Each act that succeeds adds one proof and keeps the others. -/
  proofs : ∀ done a rest mid next, acts = done ++ a :: rest → tx.run done = .ok mid →
    mid.act a = .ok next → ∃ proof, next.proofs = mid.proofs ++ [proof]

/-- **Signing succeeds in the allowed orders and in no others**, whatever state it starts in. -/
theorem run_ordered {tx : Transaction} {sender : Signer} {acts : List Act}
    (hencodable : Encodable tx sender acts) : Ordered tx acts := by
  have hrefused (hcan : ∀ a ∈ acts, a.account.canSign = true)
      (hallowed : ¬ Allowed tx.signing acts) :=
    exists_refused hencodable hcan hallowed
  constructor
  case succeeds =>
    -- A run that succeeds cannot have met the first refusal, and an allowed one is its own longest
    -- part.
    intro hcan
    constructor
    · rintro ⟨tx', hrun⟩
      by_contra hallowed
      obtain ⟨done, a, rest, mid, e, rfl, -, -, hdone, he⟩ := hrefused hcan hallowed
      rw [run_of_act_error hdone (act_of_refusal he)] at hrun
      cases hrun
    · intro hallowed
      rw [← List.append_nil acts] at hencodable hallowed
      obtain ⟨tx', hrun, -⟩ := run_of_allowed hencodable hcan hallowed
      exact ⟨tx', hrun⟩
  case refused =>
    intro hcan hallowed
    obtain ⟨done, a, rest, mid, e, rfl, hallowedDone, hstop, hdone, he⟩ := hrefused hcan hallowed
    have hact := act_of_refusal he
    refine ⟨done, a, rest, mid, e, rfl, hallowedDone, hstop, hdone, hact,
      run_of_act_error hdone hact, ?_⟩
    rcases refusal?_eq_some he with ⟨rfl, hname, hsponsor⟩ | ⟨rfl, hname⟩
    · simp [hname, hsponsor]
    · simp [hname]
  case readOnly =>
    rintro done a rest rfl hcan hreadOnly hallowed
    -- Who starts the acts up to `a` also starts all of them.
    have hencodable' : Encodable tx sender (done ++ [a]) := by
      refine ⟨hencodable.encodes, hencodable.recorded, fun hnone account now hhead => ?_⟩
      refine hencodable.starts hnone account now ?_
      cases done <;> simpa using hhead
    obtain ⟨mid, hdone, hmid, hallowedMid⟩ := run_of_allowed hencodable' hcan hallowed
    exact run_of_act_error hdone
      (hmid.act_of_readOnly (refusal?_of_allowed hallowedMid) hreadOnly)
  case proofs =>
    intro done a rest mid next _ _ hact
    exact (act_eq_ok_iff.mp hact).proofs

/-- The draft of the example can be signed by its sender and another account and sponsored, but
by nobody after that. -/
theorem run_ordered_example :
    Example.draft.Encodable Example.sender.signer
      (Example.acts ++ [.sign Example.cosigner 1002]) ∧
    Ordered Example.draft (Example.acts ++ [.sign Example.cosigner 1002]) := by
  have hencodable : Example.draft.Encodable Example.sender.signer
      (Example.acts ++ [.sign Example.cosigner 1002]) := by
    refine ⟨⟨_, rfl⟩, fun s hs => (by cases hs), fun _ account now hhead => ?_⟩
    cases hhead
    rfl
  exact ⟨hencodable, run_ordered hencodable⟩

end Wallet.Transaction
