import Wallet.Proofs.Transaction.Order

/-!
# When the bytes can be made

Five things can stand in the way of the signed bytes. `HasBytes` says that none does, and
`Obstacle` which of them is met first: there is no sender, the kind has no such layout, the layout
has no room for an expiry or for the key of the sender, or a part is longer than its length can
say. One of the two always holds (`hasBytes_or_obstacle`), and each forces what encoding comes to,
so together they say exactly what it comes to.

Id, signing and verifying add nothing to this. They fail for the sake of the bytes in just the
same cases (`encoding_domain`).
-/

namespace Wallet

namespace Body

/-- The part of a body that stands behind its length, and that length. The entries of a mass
transfer stand behind their number instead. -/
def sized? : Body → Option (SizedField × Nat)
  | .transfer _ _ attachment => some (.attachment, attachment.length)
  | .massTransfer _ attachment => some (.attachment, attachment.length)
  | .setScript script => some (.script, script.length)
  | .anchor hash => some (.anchor, hash.length)
  | .association _ _ hash _ => some (.hash, (hash.getD []).length)
  | .revokeAssociation _ _ hash => some (.hash, (hash.getD []).length)
  | _ => none

/-- A body that carries an expiry. -/
def Expires (body : Body) : Prop :=
  ∃ recipient type hash time, body = .association recipient type hash (some time)

theorem sized?_ne_transfers (body : Body) (length : Nat) :
    body.sized? ≠ some (.transfers, length) := by
  cases body <;> simp [sized?]

/-- Only an expiry in an older layout has no room. -/
theorem fits_iff {body : Body} {version : Version} :
    body.fits version = true ↔ ¬ (body.Expires ∧ version ≠ .v3) := by
  cases body with
  | association recipient type hash expires =>
    cases expires <;> simp [fits, Expires]
  | _ => simp [fits, Expires]

end Body

namespace Transaction

/-! ## §1. What can stand in the way -/

/-- Nothing stands in the way of the bytes. -/
structure HasBytes (body : Body) (sender : Option Signer) (version : Version) : Prop where
  present : sender.isSome = true
  supported : body.kind.supports version = true
  expires : ¬ (body.Expires ∧ version ≠ .v3)
  scheme : version = .v3 ∨ ∀ s ∈ sender, s.publicKey.keyType = .ed25519
  sized : ∀ field length, body.sized? = some (field, length) → length ≤ 65535

/-- The first thing that stands in the way of the bytes, and the error that it causes. -/
inductive Obstacle (body : Body) : Option Signer → Version → TransactionError → Prop where
  | missingSender {version : Version} : Obstacle body none version .missingSender
  | unsupportedVersion {sender : Signer} {version : Version}
      (unsupported : body.kind.supports version = false) :
      Obstacle body (some sender) version (.unsupportedVersion body.kind version)
  | expiryNotSupported {sender : Signer} {version : Version}
      (supported : body.kind.supports version = true)
      (expires : body.Expires) (older : version ≠ .v3) :
      Obstacle body (some sender) version (.expiryNotSupported body.kind version)
  | unsupportedKeyType {sender : Signer} {version : Version}
      (supported : body.kind.supports version = true)
      (expires : ¬ (body.Expires ∧ version ≠ .v3)) (older : version ≠ .v3)
      (scheme : sender.publicKey.keyType ≠ .ed25519) :
      Obstacle body (some sender) version
        (.unsupportedKeyType body.kind version sender.publicKey.keyType)
  | fieldTooLong {sender : Signer} {version : Version} {field : SizedField} {length : Nat}
      (supported : body.kind.supports version = true)
      (expires : ¬ (body.Expires ∧ version ≠ .v3))
      (scheme : version = .v3 ∨ sender.publicKey.keyType = .ed25519)
      (sized : body.sized? = some (field, length)) (long : 65535 < length) :
      Obstacle body (some sender) version (.fieldTooLong field length)

/-- Either something stands in the way, and then something is first, or nothing does. -/
theorem hasBytes_or_obstacle (body : Body) (sender : Option Signer) (version : Version) :
    HasBytes body sender version ∨ ∃ e, Obstacle body sender version e := by
  cases sender with
  | none => exact .inr ⟨_, .missingSender⟩
  | some s =>
    -- The conditions in the order in which they are checked.
    by_cases hunsupported : body.kind.supports version = false
    · exact .inr ⟨_, .unsupportedVersion hunsupported⟩
    have hsupported : body.kind.supports version = true := Bool.eq_true_of_not_eq_false hunsupported
    by_cases hexpires : body.Expires ∧ version ≠ .v3
    · exact .inr ⟨_, .expiryNotSupported hsupported hexpires.1 hexpires.2⟩
    by_cases hforeign : version ≠ .v3 ∧ s.publicKey.keyType ≠ .ed25519
    · exact .inr ⟨_, .unsupportedKeyType hsupported hexpires hforeign.1 hforeign.2⟩
    have hscheme : version = .v3 ∨ s.publicKey.keyType = .ed25519 := by
      rwa [← not_or, not_not] at hforeign
    by_cases hlong : ∃ field length, body.sized? = some (field, length) ∧ 65535 < length
    · obtain ⟨field, length, hsized, hlong⟩ := hlong
      exact .inr ⟨_, .fieldTooLong hsupported hexpires hscheme hsized hlong⟩
    have hroom : ∀ field length, body.sized? = some (field, length) → length ≤ 65535 :=
      fun field length hsized => Nat.le_of_not_lt fun h => hlong ⟨field, length, hsized, h⟩
    exact .inl ⟨rfl, hsupported, hexpires, by simpa using hscheme, hroom⟩

end Transaction

/-! ## §2. Encoding -/

namespace Layout

theorem sized_of_long {field : SizedField} {bytes : Bytes} (hlong : 65535 < bytes.length) :
    sized field bytes = .error (.fieldTooLong field bytes.length) := by
  have hlimit : ¬ bytes.length ≤ sizeLimit := Nat.not_le.mpr hlong
  rw [sized, count, if_neg hlimit]

/-- The entries of a body that can be made can be counted in 16 bits. -/
theorem entries_of_wellFormed {list : List Entry} (hlist : list.length ≤ recipientLimit) :
    ∃ b, entries list = .ok b := by
  have hfits : (Field.entries list).Fits := Nat.le_trans hlist (by decide)
  exact ⟨_, entries_eq_ok_iff.mpr ⟨hfits, rfl⟩⟩

section Long

variable {body : Body} {field : SizedField} {length : Nat} (hbody : body.WellFormed)
  (hsized : body.sized? = some (field, length)) (hlong : 65535 < length)

include hbody hsized hlong

/-- A part that is too long is reported whatever else the current layout holds. -/
theorem payload_of_long : payload body = .error (.fieldTooLong field length) := by
  cases body with
  | massTransfer list attachment =>
    -- The number of entries comes first, and it is never too big.
    obtain ⟨b, hentries⟩ := entries_of_wellFormed hbody
    cases hsized
    rw [payload, hentries, ok_bind, sized_of_long hlong, error_bind]
  | transfer | setScript | anchor | association | revokeAssociation =>
    cases hsized
    simp [payload, hashBytes, sized_of_long hlong]
  | lease | cancelLease | sponsorship | cancelSponsorship => cases hsized

/-- The same is true of the older layouts. -/
theorem legacy_of_long (e : Envelope) : legacy e body = .error (.fieldTooLong field length) := by
  cases body with
  | massTransfer list attachment =>
    obtain ⟨b, hentries⟩ := entries_of_wellFormed hbody
    cases hsized
    rw [legacy, hentries, ok_bind, sized_of_long hlong, error_bind]
  | transfer | setScript | anchor | association | revokeAssociation =>
    cases hsized
    simp [legacy, legacyAssociation, hashBytes, sized_of_long hlong]
  | lease | cancelLease | sponsorship | cancelSponsorship => cases hsized

end Long

/-- Lengths that can be said are what the parts of a body need. -/
theorem hasRoom_of_sized {body : Body} (hbody : body.WellFormed)
    (hsized : ∀ field length, body.sized? = some (field, length) → length ≤ 65535) :
    HasRoom body := by
  cases body with
  | massTransfer list attachment =>
    exact ⟨Nat.le_trans hbody (by decide), hsized .attachment attachment.length rfl⟩
  | transfer recipient amount attachment => exact hsized .attachment attachment.length rfl
  | setScript script => exact hsized .script script.length rfl
  | anchor hash => exact hsized .anchor hash.length rfl
  | association recipient type hash expires => exact hsized .hash (hash.getD []).length rfl
  | revokeAssociation recipient type hash => exact hsized .hash (hash.getD []).length rfl
  | lease | cancelLease | sponsorship | cancelSponsorship => trivial

end Layout

namespace Transaction

section Encoding

variable {tx : Transaction} (hbody : tx.body.WellFormed) {sender : Signer} {version : Version}

include hbody

theorem encodeFor_of_hasBytes (hbytes : HasBytes tx.body (some sender) version) :
    ∃ bytes, tx.encodeFor sender version = .ok bytes := by
  have hscheme : version = .v3 ∨ (tx.envelope sender).sender.keyType = .ed25519 :=
    hbytes.scheme.imp_right fun hall => hall sender rfl
  have hroom := Layout.hasRoom_of_sized hbody hbytes.sized
  exact ⟨_, Layout.encode_eq_ok_iff.mpr ⟨hbytes.supported, Body.fits_iff.mpr hbytes.expires,
    Layout.table_fits_iff.mpr ⟨hscheme, hroom⟩, rfl⟩⟩

theorem encodeFor_of_obstacle {e : TransactionError}
    (hobstacle : Obstacle tx.body (some sender) version e) :
    tx.encodeFor sender version = .error e := by
  -- The checks before the one that fails are passed, which is what each obstacle says.
  cases hobstacle with
  | unsupportedVersion hunsupported =>
    simp [encodeFor, Layout.encode, Body.checkVersion, hunsupported]
  | expiryNotSupported hsupported hexpires holder =>
    have hfits : tx.body.fits version = false := by
      rw [Bool.eq_false_iff, ne_eq, Body.fits_iff, not_not]
      exact ⟨hexpires, holder⟩
    simp [encodeFor, Layout.encode, Body.checkVersion, Body.checkFits, hsupported, hfits]
  | unsupportedKeyType hsupported hexpires holder hscheme =>
    have hfits := Body.fits_iff.mpr hexpires
    simp [encodeFor, Layout.encode, Body.checkVersion, Body.checkFits, Layout.checkKeyType,
      envelope, hsupported, hfits, holder, hscheme]
  | fieldTooLong hsupported hexpires hscheme hsized hlong =>
    have hfits := Body.fits_iff.mpr hexpires
    have hkey : Layout.checkKeyType tx.body.kind version (tx.envelope sender) = .ok () :=
      Layout.checkKeyType_eq_ok_iff.mpr hscheme
    simp only [encodeFor, Layout.encode, Body.checkVersion, Body.checkFits, hsupported, hfits,
      hkey, if_true, ok_bind, Layout.payload_of_long hbody hsized hlong,
      Layout.legacy_of_long hbody hsized hlong, error_bind, ite_self]

/-- What encoding for a sender comes to. -/
theorem encodeFor_iff (sender : Signer) (version : Version) :
    ((∃ bytes, tx.encodeFor sender version = .ok bytes) ↔
        HasBytes tx.body (some sender) version) ∧
      ∀ e, tx.encodeFor sender version = .error e ↔ Obstacle tx.body (some sender) version e :=
  outcome_iff (hasBytes_or_obstacle tx.body (some sender) version) (encodeFor_of_hasBytes hbody)
    fun _ => encodeFor_of_obstacle hbody

/-- What encoding comes to. -/
theorem encodeAs_iff (version : Version) :
    ((∃ bytes, tx.encodeAs version = .ok bytes) ↔ HasBytes tx.body tx.sender? version) ∧
      ∀ e, tx.encodeAs version = .error e ↔ Obstacle tx.body tx.sender? version e := by
  refine outcome_iff (hasBytes_or_obstacle tx.body tx.sender? version) ?_ ?_
  · intro hbytes
    obtain ⟨sender, hsender⟩ := Option.isSome_iff_exists.mp hbytes.present
    rw [hsender] at hbytes
    rw [encodeAs, hsender]
    exact encodeFor_of_hasBytes hbody hbytes
  · intro e hobstacle
    rw [encodeAs]
    -- Without a sender there is only one thing that can stand in the way.
    cases hsender : tx.sender? with
    | none =>
      rw [hsender] at hobstacle
      cases hobstacle
      rfl
    | some sender =>
      rw [hsender] at hobstacle
      exact encodeFor_of_obstacle hbody hobstacle

end Encoding

end Transaction

/-! ## §3. What needs the bytes -/

/-- An error of encoding. -/
def TransactionError.IsEncoding : TransactionError → Prop
  | .missingSender | .unsupportedVersion .. | .expiryNotSupported .. | .unsupportedKeyType ..
  | .fieldTooLong .. => True
  | _ => False

namespace Transaction

/-- No obstacle blames the number of entries. -/
theorem Obstacle.ne_transfers {body : Body} {sender : Option Signer} {version : Version}
    {e : TransactionError} (hobstacle : Obstacle body sender version e) (length : Nat) :
    e ≠ .fieldTooLong .transfers length := by
  rintro rfl
  cases hobstacle with
  | fieldTooLong _ _ _ hsized _ => exact body.sized?_ne_transfers length hsized

variable {tx : Transaction} {e : TransactionError}

/-- The id fails for the sake of the bytes and for nothing else. -/
theorem id_eq_error_iff : tx.id = .error e ↔ tx.encode = .error e :=
  bind_ok_eq_error

/-- A proof that is wrong is no error, so only the bytes can be missing. -/
theorem verifySender_eq_error_iff : tx.verifySender = .error e ↔ tx.encode = .error e := by
  cases hsigning : tx.signing with
  | unsigned => simp [verifySender, encode, encodeAs, sender?, hsigning, Signing.sender?]
  | signed sender proof cosigned =>
    simp only [verifySender, hsigning]
    exact bind_ok_eq_error
  | sponsored sender proof cosigned sponsor sponsorProof =>
    simp only [verifySender, hsigning]
    exact bind_ok_eq_error

theorem verify_eq_error_iff : tx.verify = .error e ↔ tx.encode = .error e := by
  cases hsigning : tx.signing with
  | unsigned => simp [verify, encode, encodeAs, sender?, hsigning, Signing.sender?]
  | signed sender proof cosigned =>
    simp only [verify, hsigning]
    exact bind_ok_eq_error
  | sponsored sender proof cosigned sponsor sponsorProof =>
    simp only [verify, hsigning]
    exact bind_ok_eq_error

/-- What a proof can fail for besides the bytes is no error of encoding. -/
theorem proofBy_eq_error_iff {sender : Signer} {account : Account} (hencoding : e.IsEncoding) :
    tx.proofBy sender account = .error e ↔ tx.encodeFor sender tx.version = .error e := by
  rw [proofBy]
  cases tx.encodeFor sender tx.version with
  | error e' => simp
  | ok message =>
    cases hsigned : account.sign message with
    | ok proof => simp [hsigned, TransactionError.liftKey]
    | error cause =>
      -- The key is at fault then.
      rw [ok_bind, hsigned]
      refine ⟨fun hkey => ?_, fun h => by cases h⟩
      cases hkey
      exact hencoding.elim

/-- Signing fails for the sake of the bytes if it is not refused and the bytes cannot be made for
the sender, who is the account itself while there is none. -/
theorem act_eq_error_iff (hbody : tx.body.WellFormed) {a : Act} (hencoding : e.IsEncoding) :
    tx.act a = .error e ↔ refusal? tx.signing a = none ∧
      Obstacle tx.body (some (tx.sender?.getD a.account.signer)) tx.version e := by
  cases hrefusal : refusal? tx.signing a with
  | some refused =>
    rw [act_of_refusal hrefusal]
    refine ⟨fun hact => ?_, fun h => by cases h.1⟩
    cases hact
    rcases refusal?_eq_some hrefusal with ⟨rfl, -⟩ | ⟨rfl, -⟩ <;> exact hencoding.elim
  | none =>
    obtain ⟨time, record, hact⟩ := act_eq_proofBy hrefusal
    rw [hact, bind_ok_eq_error, proofBy_eq_error_iff hencoding]
    -- The time is no part of what can stand in the way.
    have htimed : ({ tx with timestamp := time } : Transaction).body.WellFormed := hbody
    have hfails := (encodeFor_iff htimed (tx.sender?.getD a.account.signer) tx.version).2 e
    exact hfails.trans (and_iff_right rfl).symm

/-- When the bytes of a transaction can be made, and what fails if they cannot. -/
structure EncodingDomain (tx : Transaction) : Prop where
  encodes : ∀ version, (∃ bytes, tx.encodeAs version = .ok bytes) ↔
    HasBytes tx.body tx.sender? version
  fails : ∀ version e, tx.encodeAs version = .error e ↔ Obstacle tx.body tx.sender? version e
  /-- The number of the entries of a mass transfer always fits. -/
  entries : ∀ version length, tx.encodeAs version ≠ .error (.fieldTooLong .transfers length)
  id : ∀ e, tx.id = .error e ↔ Obstacle tx.body tx.sender? tx.version e
  verifySender : ∀ e, tx.verifySender = .error e ↔ Obstacle tx.body tx.sender? tx.version e
  verify : ∀ e, tx.verify = .error e ↔ Obstacle tx.body tx.sender? tx.version e
  act : ∀ a e, e.IsEncoding → (tx.act a = .error e ↔ refusal? tx.signing a = none ∧
    Obstacle tx.body (some (tx.sender?.getD a.account.signer)) tx.version e)

/-- **The bytes of a reachable transaction can be made unless one of five things stands in the
way**, and the first of these is the error that is met. -/
theorem encoding_domain {tx : Transaction} (hreach : Reachable tx) : EncodingDomain tx := by
  have hbody := hreach.sound.body
  have hfails (version : Version) (e : TransactionError) :
      tx.encodeAs version = .error e ↔ Obstacle tx.body tx.sender? version e :=
    (encodeAs_iff hbody version).2 e
  constructor
  case encodes => exact fun version => (encodeAs_iff hbody version).1
  case fails => exact hfails
  case entries =>
    exact fun version length herror => ((hfails version _).mp herror).ne_transfers length rfl
  case id => exact fun e => id_eq_error_iff.trans (hfails tx.version e)
  case verifySender => exact fun e => verifySender_eq_error_iff.trans (hfails tx.version e)
  case verify => exact fun e => verify_eq_error_iff.trans (hfails tx.version e)
  case act => exact fun a e hencoding => act_eq_error_iff hbody hencoding

/-- The sponsored association of the example has bytes in its own layout, but the first one has no
room for its expiry. -/
theorem encoding_domain_example : ∃ tx, Example.draft.run Example.acts = .ok tx ∧
    EncodingDomain tx ∧ (∃ bytes, tx.encodeAs .v3 = .ok bytes) ∧
    tx.encodeAs .v1 = .error (.expiryNotSupported .association .v1) := by
  obtain ⟨tx, hrun, hbody, hsender⟩ : ∃ tx, Example.draft.run Example.acts = .ok tx ∧
      tx.body = Example.draft.body ∧ tx.sender? = some Example.sender.signer := ⟨_, rfl, rfl, rfl⟩
  have hdomain := encoding_domain (Example.reachable_draft.run hrun)
  refine ⟨tx, hrun, hdomain, (hdomain.encodes .v3).mpr ?_, (hdomain.fails .v1 _).mpr ?_⟩
  · rw [hbody, hsender]
    refine ⟨rfl, rfl, fun h => h.2 rfl, .inl rfl, fun field length hsized => ?_⟩
    cases hsized
    decide
  · rw [hbody, hsender]
    exact .expiryNotSupported rfl ⟨_, _, _, _, rfl⟩ (by decide)

end Transaction

end Wallet
