import Mathlib.Data.List.Basic
import Wallet.Account.Profile
import Wallet.Proofs.Key
import Wallet.Proofs.Numeral

/-!
# What is accepted as a secret

`SecretForm` says which bytes stand for which key pair, and reading a secret accepts these bytes
and no others (`ofSecretBytes_eq_ok_iff`). An Ed25519 secret is a seed, alone or in front of its
public key. An ECDSA secret is a number in `[1, n)`, written with the most significant byte first.

That number need not fill its 32 bytes: up to eight zeros may be missing in front of it. So a
secret that lost bytes at its end is not always refused. What is left of it is read as another
number, the quotient by a power of 256 (`ofSecretBytes_take`), and is the secret of another
account. Nothing of this kind happens to Ed25519 secrets, nor to secrets that have grown.
-/

namespace Wallet

/-! ## §1. Bytes -/

theorem Octets.list_inj {n : Nat} {x y : Octets n} : x.list = y.list ↔ x = y := by
  obtain ⟨xs, hx⟩ := x
  obtain ⟨ys, hy⟩ := y
  simp

/-! ## §2. Scalars -/

namespace SecretScalar

variable {c : Curve.Weierstrass}

theorem ofNat?_eq_some_iff {n : Nat} {s : SecretScalar c} :
    ofNat? c n = some s ↔ n = s.value := by
  unfold ofNat?
  constructor
  · intro hread
    split at hread
    · cases hread
      rfl
    · cases hread
  · rintro rfl
    rw [dif_pos ⟨s.positive, s.below⟩]

/-- A scalar is read from its digits, of which up to eight zeros in front may be missing. -/
theorem ofBytes?_eq_some_iff {bytes : Bytes} {s : SecretScalar c} :
    ofBytes? c bytes = some s ↔
      24 ≤ bytes.length ∧ bytes.length ≤ 32 ∧ Bytes.toNat bytes = s.value := by
  unfold ofBytes?
  by_cases hlength : 24 ≤ bytes.length ∧ bytes.length ≤ 32
  · rw [if_pos hlength, ofNat?_eq_some_iff, ← and_assoc, and_iff_right hlength]
  · rw [if_neg hlength, ← and_assoc]
    exact ⟨fun hread => (Option.some_ne_none s hread.symm).elim,
      fun h => (hlength h.1).elim⟩

theorem exists_ofBytes?_iff {bytes : Bytes} :
    (∃ s, ofBytes? c bytes = some s) ↔ (24 ≤ bytes.length ∧ bytes.length ≤ 32) ∧
      1 ≤ Bytes.toNat bytes ∧ Bytes.toNat bytes < c.order := by
  simp only [ofBytes?_eq_some_iff]
  constructor
  · rintro ⟨s, hlong, hshort, hvalue⟩
    rw [hvalue]
    exact ⟨⟨hlong, hshort⟩, s.positive, s.below⟩
  · rintro ⟨⟨hlong, hshort⟩, hpositive, hbelow⟩
    exact ⟨⟨Bytes.toNat bytes, hpositive, hbelow⟩, hlong, hshort, rfl⟩

/-- Without its last bytes a scalar is read as a quotient. -/
theorem toNat_take_toBytes (s : SecretScalar c) (horder : c.order ≤ 256 ^ 32) {k : Nat}
    (hk : k ≤ 32) : Bytes.toNat (s.toBytes.take (32 - k)) = s.value / 256 ^ k := by
  have hvalue : s.value < 256 ^ 32 := Nat.lt_of_lt_of_le s.below horder
  -- The bytes of the number are those of the quotient and those of the rest.
  have hsplit : s.toBytes = bigEndian (32 - k) (s.value / 256 ^ k) ++ bigEndian k s.value := by
    rw [toBytes, ← bigEndian_add, Nat.sub_add_cancel hk]
  have hquotient : s.value / 256 ^ k < 256 ^ (32 - k) := by
    rw [Nat.div_lt_iff_lt_mul (by positivity), ← Nat.pow_add, Nat.sub_add_cancel hk]
    exact hvalue
  rw [hsplit, List.take_left' (length_bigEndian _ _), toNat_bigEndian hquotient]

end SecretScalar

/-! ## §3. Key pairs -/

/-- The curve of an ECDSA scheme. -/
def KeyType.curve? : KeyType → Option Curve.Weierstrass
  | .ed25519 => none
  | .secp256k1 => some .secp256k1
  | .secp256r1 => some .secp256r1

namespace KeyPair

/-- The secret number of an ECDSA key pair. -/
def scalar? : KeyPair → Option Nat
  | .ed25519 _ => none
  | .secp256k1 scalar => some scalar.value
  | .secp256r1 scalar => some scalar.value

/-- The bytes that stand for a key pair. -/
inductive SecretForm : Bytes → KeyPair → Prop where
  | seed (seed : Octets 32) : SecretForm seed.list (.ed25519 seed)
  | seedAndKey (seed : Octets 32) :
      SecretForm (seed.list ++ (Curve.Ed25519.publicKey seed).list) (.ed25519 seed)
  | scalar {bytes : Bytes} {pair : KeyPair} (isScalar : pair.scalar? = some (Bytes.toNat bytes))
      (long : 24 ≤ bytes.length) (short : bytes.length ≤ 32) : SecretForm bytes pair

/-- A seed in front of a public key that is not its own. -/
def Mismatched (bytes : Bytes) : Prop :=
  ∃ seed key : Octets 32, bytes = seed.list ++ key.list ∧ key ≠ Curve.Ed25519.publicKey seed

/-- For a pair with a secret number, the forms are the bytes that spell it. -/
theorem secretForm_scalar_iff {bytes : Bytes} {pair : KeyPair} {n : Nat}
    (hscalar : pair.scalar? = some n) :
    SecretForm bytes pair ↔ 24 ≤ bytes.length ∧ bytes.length ≤ 32 ∧ Bytes.toNat bytes = n := by
  constructor
  · intro hform
    cases hform with
    -- A seed is no secret number.
    | seed | seedAndKey => cases hscalar
    | scalar hspelled hlong hshort =>
      rw [hscalar] at hspelled
      exact ⟨hlong, hshort, (Option.some.inj hspelled).symm⟩
  · rintro ⟨hlong, hshort, rfl⟩
    exact .scalar hscalar hlong hshort

/-! ### Seeds -/

theorem ofEd25519Bytes_seed (seed : Octets 32) :
    ofEd25519Bytes seed.list = .ok (.ed25519 seed) := by
  have htake : seed.list.take 32 = seed.list := List.take_of_length_le (by rw [seed.length_eq])
  simp only [ofEd25519Bytes, htake, Octets.ofList?_list, seed.length_eq, if_true]

theorem ofEd25519Bytes_append (seed key : Octets 32) :
    ofEd25519Bytes (seed.list ++ key.list) =
      if key = Curve.Ed25519.publicKey seed then .ok (.ed25519 seed)
      else .error .keypairMismatch := by
  have htake : (seed.list ++ key.list).take 32 = seed.list := List.take_left' seed.length_eq
  have hdrop : (seed.list ++ key.list).drop 32 = key.list := List.drop_left' seed.length_eq
  have hlength : (seed.list ++ key.list).length = 64 := by
    rw [List.length_append, seed.length_eq, key.length_eq]
  simp [ofEd25519Bytes, htake, hdrop, hlength, Octets.ofList?_list, Octets.list_inj]

theorem ofEd25519Bytes_of_length {bytes : Bytes} (hseed : bytes.length ≠ 32)
    (hpair : bytes.length ≠ 64) : ofEd25519Bytes bytes = .error .invalidSecretKey := by
  unfold ofEd25519Bytes
  split
  · rw [if_neg hseed, if_neg hpair]
  · rfl

/-- Bytes are a seed, a seed with something behind it that could be its key, or neither. -/
theorem seed_cases (bytes : Bytes) :
    (∃ seed : Octets 32, bytes = seed.list) ∨
      (∃ seed key : Octets 32, bytes = seed.list ++ key.list) ∨
        (bytes.length ≠ 32 ∧ bytes.length ≠ 64) := by
  by_cases hseed : bytes.length = 32
  · exact .inl ⟨⟨bytes, hseed⟩, rfl⟩
  by_cases hpair : bytes.length = 64
  · have htake : (bytes.take 32).length = 32 := by rw [List.length_take]; omega
    have hdrop : (bytes.drop 32).length = 32 := by rw [List.length_drop]; omega
    exact .inr (.inl ⟨⟨_, htake⟩, ⟨_, hdrop⟩, (List.take_append_drop 32 bytes).symm⟩)
  · exact .inr (.inr ⟨hseed, hpair⟩)

theorem secretForm_ed25519_iff {bytes : Bytes} {seed : Octets 32} :
    SecretForm bytes (.ed25519 seed) ↔
      bytes = seed.list ∨ bytes = seed.list ++ (Curve.Ed25519.publicKey seed).list := by
  constructor
  · intro hform
    cases hform with
    | seed => exact .inl rfl
    | seedAndKey => exact .inr rfl
    | scalar hspelled => cases hspelled
  · rintro (rfl | rfl)
    · exact .seed seed
    · exact .seedAndKey seed

/-- Exactly the forms of an Ed25519 secret are accepted. -/
theorem ofEd25519Bytes_eq_ok_iff {bytes : Bytes} {pair : KeyPair} :
    ofEd25519Bytes bytes = .ok pair ↔ pair.keyType = .ed25519 ∧ SecretForm bytes pair := by
  constructor
  · intro hread
    -- The bytes are split as reading splits them, and each part settles its case.
    rcases seed_cases bytes with ⟨seed, rfl⟩ | ⟨seed, key, rfl⟩ | ⟨hseed, hpair⟩
    · rw [ofEd25519Bytes_seed] at hread
      cases hread
      exact ⟨rfl, .seed seed⟩
    · rw [ofEd25519Bytes_append] at hread
      split at hread
      · next hkey =>
        cases hread
        subst hkey
        exact ⟨rfl, .seedAndKey seed⟩
      · cases hread
    · rw [ofEd25519Bytes_of_length hseed hpair] at hread
      cases hread
  · rintro ⟨htype, hform⟩
    cases pair with
    | ed25519 seed =>
      rcases secretForm_ed25519_iff.mp hform with rfl | rfl
      · exact ofEd25519Bytes_seed seed
      · rw [ofEd25519Bytes_append, if_pos rfl]
    | secp256k1 | secp256r1 => cases htype

/-- A foreign public key is the one thing that is reported as a mismatch. -/
theorem ofEd25519Bytes_eq_mismatch_iff {bytes : Bytes} :
    ofEd25519Bytes bytes = .error .keypairMismatch ↔ Mismatched bytes := by
  constructor
  · intro hread
    rcases seed_cases bytes with ⟨seed, rfl⟩ | ⟨seed, key, rfl⟩ | ⟨hseed, hpair⟩
    · rw [ofEd25519Bytes_seed] at hread
      cases hread
    · rw [ofEd25519Bytes_append] at hread
      split at hread
      · cases hread
      · next hkey => exact ⟨seed, key, rfl, hkey⟩
    · rw [ofEd25519Bytes_of_length hseed hpair] at hread
      cases hread
  · rintro ⟨seed, key, rfl, hkey⟩
    rw [ofEd25519Bytes_append, if_neg hkey]

theorem ofEd25519Bytes_eq_error {bytes : Bytes} {e : KeyError}
    (hread : ofEd25519Bytes bytes = .error e) : e = .invalidSecretKey ∨ e = .keypairMismatch := by
  rcases seed_cases bytes with ⟨seed, rfl⟩ | ⟨seed, key, rfl⟩ | ⟨hseed, hpair⟩
  · rw [ofEd25519Bytes_seed] at hread
    cases hread
  · rw [ofEd25519Bytes_append] at hread
    split at hread
    · cases hread
    · cases hread
      exact .inr rfl
  · rw [ofEd25519Bytes_of_length hseed hpair] at hread
    cases hread
    exact .inl rfl

/-! ### Scalars -/

/-- The key pairs of a scheme are the secret scalars of a curve. What is shown of such a scheme is
shown of both ECDSA schemes at once. -/
structure ScalarScheme (keyType : KeyType) (c : Curve.Weierstrass)
    (wrap : SecretScalar c → KeyPair) : Prop where
  curve : keyType.curve? = some c
  order : 256 ^ 31 ≤ c.order ∧ c.order ≤ 256 ^ 32
  pairs : ∀ pair : KeyPair, pair.keyType = keyType → ∃ s, pair = wrap s
  typed : ∀ s, (wrap s).keyType = keyType
  scalar : ∀ s, (wrap s).scalar? = some s.value
  secret : ∀ s, (wrap s).secretBytes = s.toBytes
  reads : ∀ {bytes s}, SecretScalar.ofBytes? c bytes = some s →
    ofSecretBytes keyType bytes = .ok (wrap s)
  refuses : ∀ {bytes}, SecretScalar.ofBytes? c bytes = none →
    ofSecretBytes keyType bytes = .error .invalidSecretKey

theorem scalarScheme_secp256k1 : ScalarScheme .secp256k1 .secp256k1 .secp256k1 := by
  -- Both reading branches are read off `ofSecretBytes`.
  refine ⟨rfl, by decide, fun pair htype => ?_, fun _ => rfl, fun _ => rfl, fun _ => rfl,
    fun hread => by rw [ofSecretBytes, hread], fun hread => by rw [ofSecretBytes, hread]⟩
  cases pair with
  | secp256k1 s => exact ⟨s, rfl⟩
  | ed25519 | secp256r1 => cases htype

theorem scalarScheme_secp256r1 : ScalarScheme .secp256r1 .secp256r1 .secp256r1 := by
  refine ⟨rfl, by decide, fun pair htype => ?_, fun _ => rfl, fun _ => rfl, fun _ => rfl,
    fun hread => by rw [ofSecretBytes, hread], fun hread => by rw [ofSecretBytes, hread]⟩
  cases pair with
  | secp256r1 s => exact ⟨s, rfl⟩
  | ed25519 | secp256k1 => cases htype

/-- Every scheme with a curve is of this kind. -/
theorem exists_scalarScheme {keyType : KeyType} {c : Curve.Weierstrass}
    (hcurve : keyType.curve? = some c) : ∃ wrap, ScalarScheme keyType c wrap := by
  cases keyType with
  | ed25519 => cases hcurve
  | secp256k1 =>
    cases hcurve
    exact ⟨_, scalarScheme_secp256k1⟩
  | secp256r1 =>
    cases hcurve
    exact ⟨_, scalarScheme_secp256r1⟩

section Scalar

variable {keyType : KeyType} {c : Curve.Weierstrass} {wrap : SecretScalar c → KeyPair}
  (hscheme : ScalarScheme keyType c wrap) {bytes : Bytes} {pair : KeyPair}

include hscheme

/-- Bytes are read as a scalar exactly if they are a form of its key pair. -/
theorem ScalarScheme.form_iff (s : SecretScalar c) :
    SecretScalar.ofBytes? c bytes = some s ↔ SecretForm bytes (wrap s) :=
  SecretScalar.ofBytes?_eq_some_iff.trans (secretForm_scalar_iff (hscheme.scalar s)).symm

theorem ScalarScheme.ok_iff :
    ofSecretBytes keyType bytes = .ok pair ↔ pair.keyType = keyType ∧ SecretForm bytes pair := by
  constructor
  · intro hread
    cases hbytes : SecretScalar.ofBytes? c bytes with
    | some s =>
      rw [hscheme.reads hbytes] at hread
      cases hread
      exact ⟨hscheme.typed s, (hscheme.form_iff s).mp hbytes⟩
    | none =>
      rw [hscheme.refuses hbytes] at hread
      cases hread
  · rintro ⟨htype, hform⟩
    obtain ⟨s, rfl⟩ := hscheme.pairs pair htype
    exact hscheme.reads ((hscheme.form_iff s).mpr hform)

theorem ScalarScheme.error {e : KeyError} (hread : ofSecretBytes keyType bytes = .error e) :
    e = .invalidSecretKey := by
  cases hbytes : SecretScalar.ofBytes? c bytes with
  | some s =>
    rw [hscheme.reads hbytes] at hread
    cases hread
  | none =>
    rw [hscheme.refuses hbytes] at hread
    cases hread
    rfl

theorem ScalarScheme.exists_iff :
    (∃ pair, ofSecretBytes keyType bytes = .ok pair) ↔
      (24 ≤ bytes.length ∧ bytes.length ≤ 32) ∧
        1 ≤ Bytes.toNat bytes ∧ Bytes.toNat bytes < c.order := by
  rw [← SecretScalar.exists_ofBytes?_iff]
  constructor
  · rintro ⟨pair, hread⟩
    obtain ⟨htype, hform⟩ := hscheme.ok_iff.mp hread
    obtain ⟨s, rfl⟩ := hscheme.pairs pair htype
    exact ⟨s, (hscheme.form_iff s).mpr hform⟩
  · rintro ⟨s, hs⟩
    exact ⟨wrap s, hscheme.reads hs⟩

theorem ScalarScheme.of_length (hlength : bytes.length < 24 ∨ 32 < bytes.length) :
    ofSecretBytes keyType bytes = .error .invalidSecretKey := by
  refine hscheme.refuses ?_
  unfold SecretScalar.ofBytes?
  rw [if_neg (by omega)]

/-- A secret that has lost up to eight bytes at its end is read as a quotient, unless that is
zero. -/
theorem ScalarScheme.take (s : SecretScalar c) {k : Nat} (hk : k ≤ 8)
    (hpositive : 256 ^ k ≤ s.value) :
    ∃ other, ofSecretBytes keyType ((wrap s).secretBytes.take (32 - k)) = .ok (wrap other) ∧
      other.value = s.value / 256 ^ k := by
  have hquotient : s.value / 256 ^ k < c.order := Nat.lt_of_le_of_lt (Nat.div_le_self _ _) s.below
  have hone : 0 < s.value / 256 ^ k := Nat.div_pos hpositive (by positivity)
  -- With no more than eight bytes missing, enough of them are left.
  have hlength : (s.toBytes.take (32 - k)).length = 32 - k := by
    rw [List.length_take, SecretScalar.toBytes, length_bigEndian]
    omega
  refine ⟨⟨s.value / 256 ^ k, hone, hquotient⟩, ?_, rfl⟩
  rw [hscheme.secret]
  refine hscheme.reads (SecretScalar.ofBytes?_eq_some_iff.mpr ⟨by omega, by omega, ?_⟩)
  exact s.toNat_take_toBytes hscheme.order.2 (by omega)

end Scalar

/-! ## §4. All schemes -/

/-- Exactly the bytes that stand for a key pair are read as it. -/
theorem ofSecretBytes_eq_ok_iff {keyType : KeyType} {bytes : Bytes} {pair : KeyPair} :
    ofSecretBytes keyType bytes = .ok pair ↔ pair.keyType = keyType ∧ SecretForm bytes pair := by
  cases keyType with
  | ed25519 => exact ofEd25519Bytes_eq_ok_iff
  | secp256k1 => exact scalarScheme_secp256k1.ok_iff
  | secp256r1 => exact scalarScheme_secp256r1.ok_iff

/-- Nothing but these two errors is reported. -/
theorem ofSecretBytes_eq_error {keyType : KeyType} {bytes : Bytes} {e : KeyError}
    (hread : ofSecretBytes keyType bytes = .error e) :
    e = .invalidSecretKey ∨ keyType = .ed25519 ∧ e = .keypairMismatch := by
  cases keyType with
  | ed25519 =>
    rcases ofEd25519Bytes_eq_error hread with rfl | rfl
    · exact .inl rfl
    · exact .inr ⟨rfl, rfl⟩
  | secp256k1 => exact .inl (scalarScheme_secp256k1.error hread)
  | secp256r1 => exact .inl (scalarScheme_secp256r1.error hread)

theorem ofSecretBytes_eq_mismatch_iff {keyType : KeyType} {bytes : Bytes} :
    ofSecretBytes keyType bytes = .error .keypairMismatch ↔
      keyType = .ed25519 ∧ Mismatched bytes := by
  constructor
  · intro hread
    rcases ofSecretBytes_eq_error hread with hother | ⟨rfl, -⟩
    · cases hother
    · exact ⟨rfl, ofEd25519Bytes_eq_mismatch_iff.mp hread⟩
  · rintro ⟨rfl, hmismatched⟩
    exact ofEd25519Bytes_eq_mismatch_iff.mpr hmismatched

/-- A seed is accepted alone or in front of its public key. -/
theorem exists_seed_iff {bytes : Bytes} :
    (∃ pair, ofSecretBytes .ed25519 bytes = .ok pair) ↔ bytes.length = 32 ∨
      ∃ seed : Octets 32, bytes = seed.list ++ (Curve.Ed25519.publicKey seed).list := by
  constructor
  · rintro ⟨pair, hread⟩
    obtain ⟨htype, hform⟩ := ofSecretBytes_eq_ok_iff.mp hread
    cases pair with
    | ed25519 seed =>
      rcases secretForm_ed25519_iff.mp hform with rfl | hpair
      · exact .inl seed.length_eq
      · exact .inr ⟨seed, hpair⟩
    | secp256k1 | secp256r1 => cases htype
  · rintro (hlength | ⟨seed, rfl⟩)
    · exact ⟨_, ofEd25519Bytes_seed ⟨bytes, hlength⟩⟩
    · exact ⟨_, ofSecretBytes_eq_ok_iff.mpr ⟨rfl, .seedAndKey seed⟩⟩

/-- Whatever form it has, an Ed25519 secret starts with its seed. -/
theorem take_of_form {bytes : Bytes} {seed : Octets 32} (hform : SecretForm bytes (.ed25519 seed)) :
    32 ≤ bytes.length ∧ bytes.take 32 = seed.list := by
  have hseed := seed.length_eq
  rcases secretForm_ed25519_iff.mp hform with rfl | rfl
  · exact ⟨by omega, List.take_of_length_le (by omega)⟩
  · exact ⟨by rw [List.length_append]; omega, List.take_left' hseed⟩

/-- An Ed25519 secret that has lost or gained bytes and is still accepted is the same secret. -/
theorem eq_of_append {bytes more : Bytes} {pair other : KeyPair}
    (hread : ofSecretBytes .ed25519 bytes = .ok pair)
    (hmore : ofSecretBytes .ed25519 (bytes ++ more) = .ok other) : other = pair := by
  obtain ⟨htype, hform⟩ := ofSecretBytes_eq_ok_iff.mp hread
  obtain ⟨htype', hform'⟩ := ofSecretBytes_eq_ok_iff.mp hmore
  cases pair with
  | secp256k1 | secp256r1 => cases htype
  | ed25519 seed =>
    cases other with
    | secp256k1 | secp256r1 => cases htype'
    | ed25519 seed' =>
      obtain ⟨hlength, htake⟩ := take_of_form hform
      obtain ⟨-, htake'⟩ := take_of_form hform'
      -- Both start with their seed, and they start alike.
      rw [List.take_append_of_le_length hlength, htake, Octets.list_inj] at htake'
      rw [htake']

/-- A written secret that has gained bytes is refused. -/
theorem ofSecretBytes_extended (pair : KeyPair) {extra : Bytes} (hextra : extra ≠ []) :
    ofSecretBytes pair.keyType (pair.secretBytes ++ extra) = .error .invalidSecretKey := by
  have hgrown : 0 < extra.length := List.length_pos_iff.mpr hextra
  -- A written secret has its full length, so more of it is too much.
  have hscalar {c : Curve.Weierstrass} (s : SecretScalar c) : s.toBytes.length = 32 :=
    length_bigEndian 32 s.value
  cases pair with
  | ed25519 seed =>
    have hlength : ((KeyPair.ed25519 seed).secretBytes ++ extra).length = 64 + extra.length := by
      rw [List.length_append, secretBytes, List.length_append, seed.length_eq,
        Octets.length_eq]
    exact ofEd25519Bytes_of_length (by omega) (by omega)
  | secp256k1 s =>
    refine scalarScheme_secp256k1.of_length (.inr ?_)
    rw [List.length_append, secretBytes, hscalar]
    omega
  | secp256r1 s =>
    refine scalarScheme_secp256r1.of_length (.inr ?_)
    rw [List.length_append, secretBytes, hscalar]
    omega

/-- An ECDSA secret that has lost bytes at its end is read as a quotient, as long as no more than
eight are missing and the quotient is not zero. -/
theorem ofSecretBytes_take {pair : KeyPair} {n k : Nat} (hscalar : pair.scalar? = some n)
    (hk : k ≤ 8) (hpositive : 256 ^ k ≤ n) :
    ∃ other, ofSecretBytes pair.keyType (pair.secretBytes.take (32 - k)) = .ok other ∧
      other.scalar? = some (n / 256 ^ k) := by
  cases pair with
  | ed25519 seed => cases hscalar
  | secp256k1 s =>
    cases hscalar
    obtain ⟨other, hread, hvalue⟩ := scalarScheme_secp256k1.take s hk hpositive
    exact ⟨_, hread, by rw [← hvalue]; rfl⟩
  | secp256r1 s =>
    cases hscalar
    obtain ⟨other, hread, hvalue⟩ := scalarScheme_secp256r1.take s hk hpositive
    exact ⟨_, hread, by rw [← hvalue]; rfl⟩

end KeyPair

/-! ## §5. Secrets as text, and accounts -/

theorem KeyPair.ofSecretBase58_of_decode {keyType : KeyType} {text : String} {bytes : Bytes}
    (hdecode : Base58.decode text = .ok bytes) :
    ofSecretBase58 keyType text = ofSecretBytes keyType bytes := by
  have htext : KeyError.decodeBase58 text = .ok bytes := by rw [KeyError.decodeBase58, hdecode]
  rw [ofSecretBase58, htext, ok_bind]

theorem Profile.fromSecretBase58_of_decode (p : Profile) {text : String} {bytes : Bytes}
    (hdecode : Base58.decode text = .ok bytes) :
    p.fromSecretBase58 text = p.fromSecret bytes := by
  have htext : KeyError.decodeBase58 text = .ok bytes := by rw [KeyError.decodeBase58, hdecode]
  rw [fromSecretBase58, htext]

theorem Profile.fromSecret_eq_ok_iff {p : Profile} {bytes : Bytes} {a : Account} :
    p.fromSecret bytes = .ok a ↔ ∃ pair : KeyPair, pair.keyType = p.keyType ∧
      KeyPair.SecretForm bytes pair ∧ a = p.ofKeyPair pair none 0 := by
  unfold fromSecret
  constructor
  · intro hmade
    split at hmade
    · next pair hread =>
      cases hmade
      obtain ⟨htype, hform⟩ := KeyPair.ofSecretBytes_eq_ok_iff.mp hread
      exact ⟨pair, htype, hform, rfl⟩
    · cases hmade
  · rintro ⟨pair, htype, hform, rfl⟩
    rw [KeyPair.ofSecretBytes_eq_ok_iff.mpr ⟨htype, hform⟩]

namespace KeyPair

/-- An ECDSA secret that leaves out zeros in front. It has none of the documented lengths, and is
read all the same. -/
def LeavesOutZeros (keyType : KeyType) (bytes : Bytes) : Prop :=
  keyType.curve?.isSome = true ∧ 24 ≤ bytes.length ∧ bytes.length < 32 ∧ 0 < Bytes.toNat bytes

/-- The bytes stand for a key pair in one of the documented forms. -/
def DocumentedForm (bytes : Bytes) (pair : KeyPair) : Prop :=
  SecretForm bytes pair ∧ (pair.scalar?.isSome = true → bytes.length = 32)

theorem isSome_scalar? (pair : KeyPair) :
    pair.scalar?.isSome = true ↔ pair.keyType.curve?.isSome = true := by
  cases pair <;> simp [scalar?, KeyPair.keyType, KeyType.curve?]

/-- Bytes that leave out zeros are accepted. -/
theorem exists_of_leavesOutZeros {keyType : KeyType} {bytes : Bytes}
    (hzeros : LeavesOutZeros keyType bytes) : ∃ pair, ofSecretBytes keyType bytes = .ok pair := by
  obtain ⟨hcurve, hlong, hshort, hpositive⟩ := hzeros
  obtain ⟨c, hcurve⟩ := Option.isSome_iff_exists.mp hcurve
  obtain ⟨wrap, hscheme⟩ := exists_scalarScheme hcurve
  -- With a byte missing the number is below the order, so only zero could be refused.
  have hbelow : Bytes.toNat bytes < c.order :=
    calc Bytes.toNat bytes < 256 ^ bytes.length := Bytes.toNat_lt bytes
      _ ≤ 256 ^ 31 := Nat.pow_le_pow_right (by decide) (by omega)
      _ ≤ c.order := hscheme.order.1
  exact hscheme.exists_iff.mpr ⟨⟨hlong, by omega⟩, hpositive, hbelow⟩

/-- The documented forms are the accepted ones, unless zeros are left out. -/
theorem documented_iff {keyType : KeyType} {bytes : Bytes} :
    (∀ pair, ofSecretBytes keyType bytes = .ok pair ↔
      pair.keyType = keyType ∧ DocumentedForm bytes pair) ↔ ¬ LeavesOutZeros keyType bytes := by
  constructor
  · intro hdocumented hzeros
    obtain ⟨pair, hread⟩ := exists_of_leavesOutZeros hzeros
    obtain ⟨rfl, -, hlength⟩ := (hdocumented pair).mp hread
    have hfull : bytes.length = 32 := hlength ((isSome_scalar? pair).mpr hzeros.1)
    exact absurd hzeros.2.2.1 (by omega)
  · intro hzeros pair
    rw [ofSecretBytes_eq_ok_iff, DocumentedForm]
    refine and_congr_right fun htype => (and_iff_left_of_imp fun hform hscalar => ?_).symm
    obtain ⟨n, hn⟩ := Option.isSome_iff_exists.mp hscalar
    obtain ⟨hlong, hshort, hvalue⟩ := (secretForm_scalar_iff hn).mp hform
    -- A secret number is never zero.
    have hpositive : 0 < n := by
      cases pair with
      | ed25519 seed => cases hn
      | secp256k1 s => cases hn; exact s.positive
      | secp256r1 s => cases hn; exact s.positive
    by_contra hlength
    have hcurve : keyType.curve?.isSome = true := htype ▸ (isSome_scalar? pair).mp hscalar
    exact hzeros ⟨hcurve, hlong, by omega, by omega⟩

/-- What becomes of bytes that are read as a secret, on every way in, and of bytes that were a
secret and have lost or gained some. -/
structure ReadsSecret (keyType : KeyType) (bytes : Bytes) : Prop where
  /-- The documented forms are accepted and no others, unless zeros are left out. -/
  documented : (∀ pair, ofSecretBytes keyType bytes = .ok pair ↔
    pair.keyType = keyType ∧ DocumentedForm bytes pair) ↔ ¬ LeavesOutZeros keyType bytes
  form : ∀ pair,
    ofSecretBytes keyType bytes = .ok pair ↔ pair.keyType = keyType ∧ SecretForm bytes pair
  /-- An ECDSA secret is a number in `[1, n)` in 24 to 32 bytes. -/
  scalar : ∀ c, keyType.curve? = some c → ((∃ pair, ofSecretBytes keyType bytes = .ok pair) ↔
    (24 ≤ bytes.length ∧ bytes.length ≤ 32) ∧
      1 ≤ Bytes.toNat bytes ∧ Bytes.toNat bytes < c.order)
  /-- An Ed25519 secret is a seed, alone or with its public key. -/
  seed : keyType = .ed25519 → ((∃ pair, ofSecretBytes keyType bytes = .ok pair) ↔
    bytes.length = 32 ∨
      ∃ seed : Octets 32, bytes = seed.list ++ (Curve.Ed25519.publicKey seed).list)
  mismatch : ofSecretBytes keyType bytes = .error .keypairMismatch ↔
    keyType = .ed25519 ∧ Mismatched bytes
  invalid : ∀ e, ofSecretBytes keyType bytes = .error e →
    e = .invalidSecretKey ∨ keyType = .ed25519 ∧ e = .keypairMismatch
  text : ∀ text, Base58.decode text = .ok bytes →
    ofSecretBase58 keyType text = ofSecretBytes keyType bytes
  account : ∀ (p : Profile) a, p.keyType = keyType → (p.fromSecret bytes = .ok a ↔
    ∃ pair : KeyPair, pair.keyType = keyType ∧ SecretForm bytes pair ∧ a = p.ofKeyPair pair none 0)
  accountText : ∀ (p : Profile) text, Base58.decode text = .ok bytes →
    p.fromSecretBase58 text = p.fromSecret bytes
  /-- A written secret that has grown is refused. -/
  grown : ∀ (pair : KeyPair) extra, pair.keyType = keyType → bytes = pair.secretBytes →
    extra ≠ [] → ofSecretBytes keyType (bytes ++ extra) = .error .invalidSecretKey
  /-- An Ed25519 secret with bytes lost or gained is never another secret. -/
  seedKept : keyType = .ed25519 → ∀ more pair other, ofSecretBytes keyType bytes = .ok pair →
    ofSecretBytes keyType (bytes ++ more) = .ok other → other = pair
  /-- An ECDSA secret that has lost its last bytes, up to eight, is the secret of a quotient. -/
  scalarCut : ∀ (pair : KeyPair) n k, pair.keyType = keyType → bytes = pair.secretBytes →
    pair.scalar? = some n → k ≤ 8 → 256 ^ k ≤ n →
      ∃ other, ofSecretBytes keyType (bytes.take (32 - k)) = .ok other ∧
        other.scalar? = some (n / 256 ^ k)

/-- **The bytes that are accepted as a secret are the documented forms, unless zeros are left
out.** For Ed25519 nothing can be left out. For ECDSA up to eight zeros can be, which is why a
secret that lost bytes at its end may be taken for another one. -/
theorem reads_secret (keyType : KeyType) (bytes : Bytes) : ReadsSecret keyType bytes := by
  constructor
  case documented => exact documented_iff
  case form => exact fun pair => ofSecretBytes_eq_ok_iff
  case scalar =>
    intro c hcurve
    obtain ⟨wrap, hscheme⟩ := exists_scalarScheme hcurve
    exact hscheme.exists_iff
  case seed =>
    rintro rfl
    exact exists_seed_iff
  case mismatch => exact ofSecretBytes_eq_mismatch_iff
  case invalid => exact fun e => ofSecretBytes_eq_error
  case text => exact fun text hdecode => ofSecretBase58_of_decode hdecode
  case account =>
    rintro p a rfl
    exact Profile.fromSecret_eq_ok_iff
  case accountText => exact fun p text hdecode => p.fromSecretBase58_of_decode hdecode
  case grown =>
    rintro pair extra rfl rfl hextra
    exact ofSecretBytes_extended pair hextra
  case seedKept =>
    rintro rfl more pair other
    exact eq_of_append
  case scalarCut =>
    rintro pair n k rfl rfl hscalar hk hpositive
    exact ofSecretBytes_take hscalar hk hpositive

/-! ### An example

A secret of secp256k1, and what is left of it without its last byte. -/

namespace Example

def whole : SecretScalar .secp256k1 :=
  ⟨0x7d491f72cb4536dbdd32403078c4e353888454cf8739c3a434a64e28cf07846e, by decide, by decide⟩

def cut : SecretScalar .secp256k1 :=
  ⟨0x7d491f72cb4536dbdd32403078c4e353888454cf8739c3a434a64e28cf0784, by decide, by decide⟩

def profile : Profile :=
  Profile.standard.withKeyType .secp256k1

theorem secretForm_cut :
    SecretForm ((KeyPair.secp256k1 whole).secretBytes.take 31) (.secp256k1 cut) :=
  .scalar (by decide) (by decide) (by decide)

theorem address_cut_ne : (profile.ofKeyPair (.secp256k1 cut) none 0).address ≠
    (profile.ofKeyPair (.secp256k1 whole) none 0).address := by
  decide +kernel

end Example

/-- The 31 bytes that are left of the example are accepted as a secret, and they give another
account. -/
theorem exists_cut_secret : ∃ (secret : Bytes) (a b : Account), secret.length = 32 ∧
    Example.profile.fromSecret secret = .ok a ∧
    Example.profile.fromSecret (secret.take 31) = .ok b ∧ b.address ≠ a.address := by
  refine ⟨(KeyPair.secp256k1 Example.whole).secretBytes, _, _, rfl, ?_, ?_, Example.address_cut_ne⟩
  · exact Profile.fromSecret_eq_ok_iff.mpr ⟨_, rfl,
      .scalar (by decide) (by decide) (by decide), rfl⟩
  · exact Profile.fromSecret_eq_ok_iff.mpr ⟨_, rfl, Example.secretForm_cut, rfl⟩

end KeyPair

end Wallet
