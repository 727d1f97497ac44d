import Wallet.Proofs.Account.Routes
import Wallet.Proofs.Address

/-!
# Checking accounts

An account can be compared with texts for its address, its public key and its private key, any of
which may be left out. Three outcomes are possible for a text: it is that of the account
(`Account.Matches`), it cannot be read as what it is given for (`Account.Unread`), or it is that of
another account. `checkPart_iff` says that each of the three checks tells them apart, and for that
the public key of the account must be one that is read back from its text, as it is in any account
that a profile makes (`Profile.Makes`).

The checks are made in order, so the first text that is refused decides about the error
(`FirstRefused`). Nothing but the address, the public key and whether there is something to sign
with has a part in this, and neither has the profile that is asked (`checks_account`).
-/

namespace Wallet

/-! ## §1. Accounts that a profile makes -/

/-- The ways in which a profile makes an account. -/
inductive Profile.Makes (p : Profile) : Account → Prop where
  | phrase (phrase : String) (nonce : UInt32) : Makes p (p.fromPhrase phrase nonce)
  | fresh (draws : Vector UInt32 5) : Makes p (p.fresh draws)
  | secret {bytes : Bytes} {a : Account} (made : p.fromSecret bytes = .ok a) : Makes p a
  | secretText {text : String} {a : Account} (made : p.fromSecretBase58 text = .ok a) : Makes p a
  | key {bytes : Bytes} {a : Account} (made : p.fromPublic bytes = .ok a) : Makes p a
  | keyText {text : String} {a : Account} (made : p.fromPublicBase58 text = .ok a) : Makes p a

namespace Profile

variable {p : Profile} {a : Account}

theorem readable_of_fromSecret {bytes : Bytes} (hmade : p.fromSecret bytes = .ok a) :
    a.publicKey.Readable := by
  obtain ⟨pair, -, -, rfl⟩ := fromSecret_eq_ok_iff.mp hmade
  exact pair.readable_publicKey

theorem readable_of_fromPublic {bytes : Bytes} (hmade : p.fromPublic bytes = .ok a) :
    a.publicKey.Readable := by
  unfold fromPublic at hmade
  split at hmade
  · next key hread =>
    cases hmade
    exact PublicKey.readable_of_ofBytes hread
  · cases hmade

/-- The public key of an account that was made is read back. -/
theorem Makes.readable (hmade : p.Makes a) : a.publicKey.Readable := by
  cases hmade with
  | phrase phrase nonce => exact KeyPair.readable_publicKey _
  | fresh draws => exact KeyPair.readable_publicKey _
  | secret hmade => exact readable_of_fromSecret hmade
  | secretText hmade =>
    unfold fromSecretBase58 at hmade
    split at hmade
    · exact readable_of_fromSecret hmade
    · cases hmade
  | key hmade => exact readable_of_fromPublic hmade
  | keyText hmade =>
    unfold fromPublicBase58 at hmade
    split at hmade
    · exact readable_of_fromPublic hmade
    · cases hmade

end Profile

theorem KeyPair.ofSecretBase58_secretBase58 (pair : KeyPair) :
    ofSecretBase58 pair.keyType pair.secretBase58 = .ok pair :=
  (ofSecretBase58_of_decode (Base58.decode_encode _)).trans pair.ofSecretBytes_secretBytes

theorem KeyPair.beq_iff {pair other : KeyPair} :
    (pair == other) = true ↔ pair.publicKey = other.publicKey :=
  beq_iff_eq (a := pair.publicKey)

namespace Account

variable {a b : Account} {part : AccountPart} {text : String} {e : AccountError}

/-! ## §2. One text -/

/-- The text is that of the account. A private key has several texts, and all that counts is the
public key that belongs to it. -/
def Matches (a : Account) : AccountPart → String → Prop
  | .address, text => text = a.address.toText
  | .publicKey, text => text = a.publicKey.toBase58
  | .privateKey, text => ∃ pair, KeyPair.ofSecretBase58 a.keyType text = .ok pair ∧
      a.canSign = true ∧ pair.publicKey = a.publicKey

/-- The text cannot be read as what it is given for. -/
inductive Unread (a : Account) (text : String) : AccountPart → AccountError → Prop where
  | address {cause : AddressError} (unread : Address.ofText text = .error cause) :
      Unread a text .address (.address cause)
  | publicKey {cause : KeyError} (unread : PublicKey.ofBase58 a.keyType text = .error cause) :
      Unread a text .publicKey (.key cause)
  | privateKey {cause : KeyError}
      (unread : KeyPair.ofSecretBase58 a.keyType text = .error cause) :
      Unread a text .privateKey (.key cause)

/-- What is wrong with a text that is not that of the account. -/
inductive Refused (a : Account) (part : AccountPart) (text : String) : AccountError → Prop where
  | unread {e : AccountError} (unread : a.Unread text part e) : Refused a part text e
  | foreign (read : ∀ e, ¬ a.Unread text part e) (foreign : ¬ a.Matches part text) :
      Refused a part text (.mismatch part)

/-- The check of a part. -/
def checkPart (a : Account) : AccountPart → String → Except AccountError Unit
  | .address => a.checkAddress
  | .publicKey => a.checkPublicKey
  | .privateKey => a.checkPrivateKey

/-- No text is left open. -/
theorem matches_or_refused (a : Account) (part : AccountPart) (text : String) :
    a.Matches part text ∨ ∃ e, a.Refused part text e := by
  by_cases hmatches : a.Matches part text
  · exact .inl hmatches
  · by_cases hunread : ∃ e, a.Unread text part e
    · obtain ⟨e, hunread⟩ := hunread
      exact .inr ⟨e, .unread hunread⟩
    · exact .inr ⟨_, .foreign (not_exists.mp hunread) hmatches⟩

/-- The text of the account passes. -/
theorem checkPart_of_matches (hreadable : a.publicKey.Readable) (hmatches : a.Matches part text) :
    a.checkPart part text = .ok () := by
  cases part with
  | address =>
    obtain rfl : text = a.address.toText := hmatches
    show a.checkAddress _ = .ok ()
    simp only [checkAddress, Address.ofText_toText, if_true]
  | publicKey =>
    obtain rfl : text = a.publicKey.toBase58 := hmatches
    have hread : PublicKey.ofBase58 a.keyType a.publicKey.toBase58 = .ok a.publicKey :=
      hreadable.ofBase58_toBase58
    show a.checkPublicKey _ = .ok ()
    simp only [checkPublicKey, hread, if_true]
  | privateKey =>
    obtain ⟨pair, hread, hsigns, hpublic⟩ := hmatches
    obtain ⟨held, hheld⟩ := Option.isSome_iff_exists.mp hsigns
    -- The pair that was read may be another one than the pair that is held, as far as is known, but
    -- both have the public key of the account.
    have hequal : (held == pair) = true :=
      KeyPair.beq_iff.mpr ((a.publicKey_eq held hheld).trans hpublic.symm)
    show a.checkPrivateKey text = .ok ()
    simp only [checkPrivateKey, hread, hheld, hequal, if_true]

theorem checkPart_of_unread (hunread : a.Unread text part e) :
    a.checkPart part text = .error e := by
  cases hunread with
  | address hread =>
    show a.checkAddress text = _
    simp only [checkAddress, hread]
  | publicKey hread =>
    show a.checkPublicKey text = _
    simp only [checkPublicKey, hread]
  | privateKey hread =>
    show a.checkPrivateKey text = _
    simp only [checkPrivateKey, hread]

/-- A text that can be read and is not that of the account is that of another one. -/
theorem checkPart_of_foreign (hread : ∀ e, ¬ a.Unread text part e)
    (hforeign : ¬ a.Matches part text) : a.checkPart part text = .error (.mismatch part) := by
  cases part with
  | address =>
    show a.checkAddress text = _
    unfold checkAddress
    cases hother : Address.ofText text with
    | error cause => exact absurd (.address hother) (hread _)
    | ok other =>
      have hne : other ≠ a.address := by
        rintro rfl
        exact hforeign (Address.ofText_eq_ok_iff.mp hother)
      simp only [if_neg hne]
  | publicKey =>
    show a.checkPublicKey text = _
    unfold checkPublicKey
    cases hother : PublicKey.ofBase58 a.keyType text with
    | error cause => exact absurd (.publicKey hother) (hread _)
    | ok other =>
      have hne : other ≠ a.publicKey := by
        rintro rfl
        exact hforeign (PublicKey.ofBase58_eq_ok_iff.mp hother).2
      simp only [if_neg hne]
  | privateKey =>
    show a.checkPrivateKey text = _
    unfold checkPrivateKey
    cases hother : KeyPair.ofSecretBase58 a.keyType text with
    | error cause => exact absurd (.privateKey hother) (hread _)
    | ok pair =>
      cases hheld : a.keyPair with
      | none => rfl
      | some held =>
        -- The public key of the pair that is held is that of the account.
        have hne : ¬ (held == pair) = true := by
          intro hequal
          have hkeys : held.publicKey = pair.publicKey := KeyPair.beq_iff.mp hequal
          refine hforeign ⟨pair, hother, ?_, hkeys.symm.trans (a.publicKey_eq held hheld)⟩
          rw [canSign, hheld]
          rfl
        simp only [if_neg hne]

/-- **A check passes exactly for the text of the account**, and it says what is wrong with any
other. -/
theorem checkPart_iff (hreadable : a.publicKey.Readable) (part : AccountPart) (text : String) :
    (a.checkPart part text = .ok () ↔ a.Matches part text) ∧
      ∀ e, a.checkPart part text = .error e ↔ a.Refused part text e := by
  have houtcome : ((∃ u, a.checkPart part text = .ok u) ↔ a.Matches part text) ∧
      ∀ e, a.checkPart part text = .error e ↔ a.Refused part text e := by
    -- The two directions that are shown give the others, since no text is left open.
    apply outcome_iff (a.matches_or_refused part text)
    · exact fun hmatches => ⟨(), checkPart_of_matches hreadable hmatches⟩
    · rintro e (hunread | ⟨hread, hforeign⟩)
      · exact checkPart_of_unread hunread
      · exact checkPart_of_foreign hread hforeign
  refine ⟨?_, houtcome.2⟩
  rw [← houtcome.1]
  exact ⟨fun hok => ⟨(), hok⟩, fun ⟨_, hok⟩ => hok⟩

/-! ## §3. Three texts -/

end Account

/-- The texts that are given. -/
structure Expectation where
  address : Option String
  publicKey : Option String
  privateKey : Option String

/-- The text that is given for a part. -/
def Expectation.text? (x : Expectation) : AccountPart → Option String
  | .address => x.address
  | .publicKey => x.publicKey
  | .privateKey => x.privateKey

/-- The place of a part in the order in which the parts are compared. -/
def AccountPart.position : AccountPart → Nat
  | .address => 0
  | .publicKey => 1
  | .privateKey => 2

namespace Account

variable {a b : Account} {part : AccountPart} {e : AccountError} {x : Expectation}

/-- All texts that are given are those of the account. -/
def MatchesAll (a : Account) (x : Expectation) : Prop :=
  ∀ part text, x.text? part = some text → a.Matches part text

theorem matchesAll_iff : a.MatchesAll x ↔
    (∀ text, x.address = some text → a.Matches .address text) ∧
    (∀ text, x.publicKey = some text → a.Matches .publicKey text) ∧
    ∀ text, x.privateKey = some text → a.Matches .privateKey text := by
  constructor
  · intro hall
    exact ⟨hall .address, hall .publicKey, hall .privateKey⟩
  · rintro ⟨haddress, hpublic, hprivate⟩ part
    cases part
    · exact haddress
    · exact hpublic
    · exact hprivate

/-- The first text that is not that of the account, and what is wrong with it. -/
structure FirstRefused (a : Account) (x : Expectation) (part : AccountPart) (text : String)
    (e : AccountError) : Prop where
  given : x.text? part = some text
  refused : a.Refused part text e
  first : ∀ earlier other, earlier.position < part.position → x.text? earlier = some other →
    a.Matches earlier other

/-- The check of a part for which there may be no text. -/
def checkGiven (a : Account) (x : Expectation) (part : AccountPart) : Except AccountError Unit :=
  checkIfGiven (a.checkPart part) (x.text? part)

theorem checkGiven_iff (hreadable : a.publicKey.Readable) (x : Expectation) (part : AccountPart) :
    (a.checkGiven x part = .ok () ↔ ∀ text, x.text? part = some text → a.Matches part text) ∧
      ∀ e, a.checkGiven x part = .error e ↔
        ∃ text, x.text? part = some text ∧ a.Refused part text e := by
  unfold checkGiven
  cases x.text? part with
  | none => simp [checkIfGiven]
  | some text => simpa [checkIfGiven] using a.checkPart_iff hreadable part text

/-- The parts are checked in their order. -/
theorem check_eq (a : Account) (x : Expectation) :
    a.check x.address x.publicKey x.privateKey = (do
      a.checkGiven x .address
      a.checkGiven x .publicKey
      a.checkGiven x .privateKey) := rfl

/-- All checks pass exactly if all texts are those of the account. -/
theorem check_eq_ok_iff (hreadable : a.publicKey.Readable) :
    a.check x.address x.publicKey x.privateKey = .ok () ↔ a.MatchesAll x := by
  have hpart (part : AccountPart) := (a.checkGiven_iff hreadable x part).1
  rw [check_eq, check_bind_eq_ok, check_bind_eq_ok, hpart, hpart, hpart, matchesAll_iff]
  rfl

/-- The first text that is refused is the one that is reported. -/
theorem check_of_firstRefused (hreadable : a.publicKey.Readable) {text : String}
    (hfirst : a.FirstRefused x part text e) :
    a.check x.address x.publicKey x.privateKey = .error e := by
  have hrefused : a.checkGiven x part = .error e :=
    ((a.checkGiven_iff hreadable x part).2 e).mpr ⟨text, hfirst.given, hfirst.refused⟩
  have hearlier (earlier : AccountPart) (hposition : earlier.position < part.position) :
      a.checkGiven x earlier = .ok () :=
    (a.checkGiven_iff hreadable x earlier).1.mpr fun other =>
      hfirst.first earlier other hposition
  -- What is compared earlier passes, so the error of this part is the one that is seen.
  rw [check_eq]
  cases part with
  | address => rw [hrefused, error_bind]
  | publicKey => rw [hearlier .address (by decide), ok_bind, hrefused, error_bind]
  | privateKey =>
    rw [hearlier .address (by decide), ok_bind, hearlier .publicKey (by decide), ok_bind, hrefused]

/-- Either no text is refused, or one is the first. -/
theorem matchesAll_or_firstRefused (a : Account) (x : Expectation) :
    a.MatchesAll x ∨ ∃ e part text, a.FirstRefused x part text e := by
  by_cases hall : a.MatchesAll x
  · exact .inl hall
  · right
    -- Of the parts whose text is not that of the account, take the one that is compared first.
    let Differs (part : AccountPart) : Prop :=
      ∃ text, x.text? part = some text ∧ ¬ a.Matches part text
    have hdiffers : ∃ part, Differs part := by
      by_contra hnone
      refine hall fun part text hgiven => ?_
      by_contra hmatches
      exact hnone ⟨part, text, hgiven, hmatches⟩
    obtain ⟨part, ⟨text, hgiven, hdiffers⟩, hmin⟩ :=
      (measure AccountPart.position).wf.has_min {part | Differs part} hdiffers
    obtain ⟨e, hrefused⟩ := (a.matches_or_refused part text).resolve_left hdiffers
    refine ⟨e, part, text, hgiven, hrefused, fun earlier other hposition hother => ?_⟩
    by_contra hmatches
    exact hmin earlier ⟨other, hother, hmatches⟩ hposition

/-- A check fails exactly for the first text that is refused. -/
theorem check_eq_error_iff (hreadable : a.publicKey.Readable) :
    a.check x.address x.publicKey x.privateKey = .error e ↔
      ∃ part text, a.FirstRefused x part text e := by
  -- Either all texts match or one of them is the first that does not.
  apply (outcome_iff (a.matchesAll_or_firstRefused x) _ _).2
  · exact fun hall => ⟨(), (check_eq_ok_iff hreadable).mpr hall⟩
  · rintro e ⟨part, text, hfirst⟩
    exact check_of_firstRefused hreadable hfirst

/-- An account that cannot sign passes with no private key. -/
theorem check_ne_ok_of_readOnly (hreadable : a.publicKey.Readable) (hsigns : a.canSign = false)
    {text : String} (hgiven : x.privateKey = some text) :
    a.check x.address x.publicKey x.privateKey ≠ .ok () := by
  intro hpasses
  obtain ⟨pair, -, hcan, -⟩ := (check_eq_ok_iff hreadable).mp hpasses .privateKey text hgiven
  rw [hsigns] at hcan
  cases hcan

/-- The pairs that two accounts hold are as good as each other if they have the same public key. -/
theorem checkPrivateKey_congr (hpublic : b.publicKey = a.publicKey)
    (hsigns : b.canSign = a.canSign) (text : String) :
    b.checkPrivateKey text = a.checkPrivateKey text := by
  have htype : b.keyType = a.keyType := congrArg PublicKey.keyType hpublic
  unfold checkPrivateKey
  rw [htype]
  cases KeyPair.ofSecretBase58 a.keyType text with
  | error cause => rfl
  | ok pair =>
    unfold canSign at hsigns
    -- Both accounts hold a pair or neither does.
    cases ha : a.keyPair with
    | none =>
      rw [ha, Option.isSome_none, Option.isSome_eq_false_iff, Option.isNone_iff_eq_none] at hsigns
      rw [hsigns]
    | some held =>
      rw [ha, Option.isSome_some] at hsigns
      obtain ⟨other, hb⟩ := Option.isSome_iff_exists.mp hsigns
      have hsame : other.publicKey = held.publicKey := by
        rw [b.publicKey_eq other hb, a.publicKey_eq held ha, hpublic]
      have hequal : (other == pair) = (held == pair) := by
        rw [Bool.eq_iff_iff, KeyPair.beq_iff, KeyPair.beq_iff, hsame]
      simp only [hb, hequal]

/-- A check depends on the address, on the public key and on whether the account can sign. -/
theorem check_congr (haddress : b.address = a.address) (hpublic : b.publicKey = a.publicKey)
    (hsigns : b.canSign = a.canSign) : b.check = a.check := by
  have hfirst : b.checkAddress = a.checkAddress := by
    funext text
    simp only [checkAddress, haddress]
  have hsecond : b.checkPublicKey = a.checkPublicKey := by
    funext text
    simp only [checkPublicKey, keyType, hpublic]
  have hthird : b.checkPrivateKey = a.checkPrivateKey :=
    funext (checkPrivateKey_congr hpublic hsigns)
  funext address publicKey privateKey
  simp only [check, hfirst, hsecond, hthird]

/-- What an account gives away itself. -/
def expectation (a : Account) : Expectation :=
  ⟨some a.address.toText, some a.publicKey.toBase58, a.keyPair.map KeyPair.secretBase58⟩

/-- It passes with that. -/
theorem matchesAll_expectation (a : Account) : a.MatchesAll a.expectation := by
  intro part text hgiven
  cases part with
  | address => exact (Option.some.inj hgiven).symm
  | publicKey => exact (Option.some.inj hgiven).symm
  | privateKey =>
    obtain ⟨pair, hpair, rfl⟩ := Option.map_eq_some_iff.mp hgiven
    -- The scheme of the account is that of the pair, so its secret is read under it.
    have htype : a.keyType = pair.keyType := by
      rw [keyType, ← a.publicKey_eq pair hpair, KeyPair.keyType_publicKey]
    have hread : KeyPair.ofSecretBase58 a.keyType pair.secretBase58 = .ok pair := by
      rw [htype, pair.ofSecretBase58_secretBase58]
    have hsigns : a.canSign = true := Option.isSome_iff_exists.mpr ⟨pair, hpair⟩
    exact ⟨pair, hread, hsigns, a.publicKey_eq pair hpair⟩

end Account

/-- What comes of comparing an account with what is expected of it. -/
structure Checks (a : Account) : Prop where
  /-- It passes exactly with its own texts. -/
  passes : ∀ (p : Profile) (x : Expectation),
    p.checkAccount a x.address x.publicKey x.privateKey = .ok () ↔
      (∀ text, x.address = some text → text = a.address.toText) ∧
      (∀ text, x.publicKey = some text → text = a.publicKey.toBase58) ∧
      ∀ text, x.privateKey = some text →
        ∃ pair, KeyPair.ofSecretBase58 a.keyType text = .ok pair ∧ a.canSign = true ∧
          pair.publicKey = a.publicKey
  /-- Otherwise the first text that is not its own decides about the error. -/
  fails : ∀ (p : Profile) (x : Expectation) (e : AccountError),
    p.checkAccount a x.address x.publicKey x.privateKey = .error e ↔
      ∃ part text, a.FirstRefused x part text e
  own : ∀ p : Profile, p.checkAccount a a.expectation.address a.expectation.publicKey
    a.expectation.privateKey = .ok ()
  readOnly : a.canSign = false → ∀ (p : Profile) (x : Expectation) (text : String),
    x.privateKey = some text → p.checkAccount a x.address x.publicKey x.privateKey ≠ .ok ()
  /-- Any profile says the same of any account with the same address and the same public key that
  can sign, or cannot sign, as well. -/
  alike : ∀ (p q : Profile) (b : Account), b.address = a.address → b.publicKey = a.publicKey →
    b.canSign = a.canSign → ∀ x : Expectation,
      p.checkAccount b x.address x.publicKey x.privateKey =
        q.checkAccount a x.address x.publicKey x.privateKey

/-- **An account passes with its own data and with no other**, whichever profile is asked. -/
theorem checks_account {p : Profile} {a : Account} (hmade : p.Makes a) : Checks a := by
  have hreadable := hmade.readable
  constructor
  case passes =>
    intro _ x
    exact (Account.check_eq_ok_iff hreadable).trans Account.matchesAll_iff
  case fails => exact fun _ x e => Account.check_eq_error_iff hreadable
  case own => exact fun _ => (Account.check_eq_ok_iff hreadable).mpr a.matchesAll_expectation
  case readOnly => exact fun hsigns _ x text => Account.check_ne_ok_of_readOnly hreadable hsigns
  case alike =>
    intro _ _ b haddress hpublic hsigns x
    show b.check _ _ _ = a.check _ _ _
    rw [Account.check_congr haddress hpublic hsigns]

/-- The account of a secret of secp256k1 passes with its address. -/
theorem checks_account_example : ∃ a, KeyPair.Example.profile.Makes a ∧ Checks a ∧
    KeyPair.Example.profile.checkAccount a (some "3JjdrdhevAY2AHinJo9f1Q9mp5GJc9tmdDa") none none =
      .ok () := by
  let pair : KeyPair := .secp256k1 KeyPair.Example.whole
  have hmade : KeyPair.Example.profile.Makes (KeyPair.Example.profile.ofKeyPair pair none 0) :=
    .secret (KeyPair.Example.profile.fromSecret_secretBytes rfl)
  have htext : (KeyPair.Example.profile.ofKeyPair pair none 0).address.toText =
      "3JjdrdhevAY2AHinJo9f1Q9mp5GJc9tmdDa" := by decide +kernel
  have hchecks := checks_account hmade
  refine ⟨_, hmade, hchecks, (hchecks.passes KeyPair.Example.profile ⟨_, none, none⟩).mpr ?_⟩
  refine ⟨?_, nofun, nofun⟩
  rintro text ⟨⟩
  exact htext.symm

end Wallet
