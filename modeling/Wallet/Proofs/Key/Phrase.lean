import Wallet.Account.Profile
import Wallet.Proofs.Numeral
import Wallet.Proofs.Text.Base64

/-!
# Phrases that open the same account

What is hashed for an account of a phrase is the number of the account, in four bytes, and then the
phrase: one byte per character if every character fits one, UTF-8 otherwise. Either of the two ways
to write a phrase can be read back, so two phrases that are written in the same way never meet
(`phraseBytes_inj`).

A phrase in UTF-8 is a list of bytes like any other, though, and every list of bytes is that of a
phrase with one character per byte (`latinText`). So each phrase with a wide character meets exactly
one other phrase (`Misread`), and the two open the same accounts.
-/

namespace Wallet

/-! ## §1. One character per byte -/

/-- A phrase has a character that does not fit one byte. -/
def Wide (phrase : String) : Prop :=
  ∃ c ∈ phrase.toList, 0xff < c.toNat

/-- The phrase that has one character for each byte, whose number is that byte. -/
def latinText (bytes : Bytes) : String :=
  String.ofList (bytes.map fun byte => Char.ofNat byte.toNat)

/-- The first phrase is written in UTF-8, and the second is what that looks like with one character
per byte. -/
structure Misread (phrase other : String) : Prop where
  wide : Wide phrase
  narrow : ¬ Wide other
  other_eq : other = latinText (Bytes.ofText phrase)

theorem not_wide_iff {phrase : String} :
    ¬ Wide phrase ↔ ∀ c ∈ phrase.toList, c.toNat ≤ 0xff := by
  simp [Wide]

theorem not_wide_latinText (bytes : Bytes) : ¬ Wide (latinText bytes) := by
  rw [not_wide_iff, latinText, String.toList_ofList]
  intro c hc
  obtain ⟨byte, -, rfl⟩ := List.mem_map.mp hc
  have hbyte := byte.toNat_lt
  rw [toNat_ofNat_byte]
  omega

theorem phraseBytes_of_wide {phrase : String} (hwide : Wide phrase) :
    phraseBytes phrase = Bytes.ofText phrase := by
  have hall : ¬ (phrase.toList.all fun c => c.toNat ≤ 0xff) = true := by
    simpa [Wide] using hwide
  rw [phraseBytes, if_neg hall]

theorem phraseBytes_of_narrow {phrase : String} (hnarrow : ¬ Wide phrase) :
    phraseBytes phrase = phrase.toList.map fun c => UInt8.ofNat c.toNat := by
  have hall : (phrase.toList.all fun c => c.toNat ≤ 0xff) = true := by
    simpa [Wide] using hnarrow
  rw [phraseBytes, if_pos hall]

/-- A phrase without a wide character is read back from its bytes. -/
theorem latinText_phraseBytes {phrase : String} (hnarrow : ¬ Wide phrase) :
    latinText (phraseBytes phrase) = phrase := by
  -- A character that fits one byte is the character of that byte.
  have hback : ∀ c ∈ phrase.toList, Char.ofNat (UInt8.ofNat c.toNat).toNat = c := by
    intro c hc
    have hbyte : c.toNat ≤ 0xff := not_wide_iff.mp hnarrow c hc
    rw [UInt8.toNat_ofNat', Nat.mod_eq_of_lt (by omega)]
    exact Char.ofNat_toNat c
  have hchars : (phraseBytes phrase).map (fun byte => Char.ofNat byte.toNat) = phrase.toList := by
    rw [phraseBytes_of_narrow hnarrow]
    exact map_map_eq_self hback
  rw [latinText, hchars, String.ofList_toList]

/-- Every list of bytes is that of a phrase. -/
theorem phraseBytes_latinText (bytes : Bytes) : phraseBytes (latinText bytes) = bytes := by
  rw [phraseBytes_of_narrow (not_wide_latinText bytes), latinText, String.toList_ofList]
  apply map_map_eq_self
  intro byte _
  rw [toNat_ofNat_byte, UInt8.ofNat_toNat]

/-! ## §2. Phrases with the same bytes -/

/-- Two phrases that are written in the same way are told apart. -/
theorem phraseBytes_inj {p q : String} (hsame : Wide p ↔ Wide q)
    (heq : phraseBytes p = phraseBytes q) : p = q := by
  by_cases hwide : Wide p
  · rw [phraseBytes_of_wide hwide, phraseBytes_of_wide (hsame.mp hwide)] at heq
    exact Bytes.ofText_inj heq
  · rw [← latinText_phraseBytes hwide, heq, latinText_phraseBytes (mt hsame.mpr hwide)]

theorem Misread.phraseBytes_eq {p q : String} (hmisread : Misread p q) :
    phraseBytes p = phraseBytes q := by
  rw [hmisread.other_eq, phraseBytes_latinText, phraseBytes_of_wide hmisread.wide]

theorem misread_of_phraseBytes_eq {p q : String} (hwide : Wide p) (hnarrow : ¬ Wide q)
    (heq : phraseBytes p = phraseBytes q) : Misread p q := by
  refine ⟨hwide, hnarrow, ?_⟩
  rw [← phraseBytes_of_wide hwide, heq, latinText_phraseBytes hnarrow]

/-- Two phrases have the same bytes if they are equal or one is the other misread. -/
theorem phraseBytes_eq_iff {p q : String} :
    phraseBytes p = phraseBytes q ↔ p = q ∨ Misread p q ∨ Misread q p := by
  constructor
  · intro heq
    -- Phrases that are written alike are equal; if one is wide and the other is not, it is misread.
    by_cases hp : Wide p
    · by_cases hq : Wide q
      · exact .inl (phraseBytes_inj (iff_of_true hp hq) heq)
      · exact .inr (.inl (misread_of_phraseBytes_eq hp hq heq))
    · by_cases hq : Wide q
      · exact .inr (.inr (misread_of_phraseBytes_eq hq hp heq.symm))
      · exact .inl (phraseBytes_inj (iff_of_false hp hq) heq)
  · intro hcases
    rcases hcases with hsame | hmisread | hmisread
    · rw [hsame]
    · exact hmisread.phraseBytes_eq
    · exact hmisread.phraseBytes_eq.symm

/-- The number in front has four bytes whatever it is, so that it cannot run into the phrase. -/
theorem seedInput_eq_iff {p q : String} {m k : UInt32} :
    seedInput p m = seedInput q k ↔ m = k ∧ phraseBytes p = phraseBytes q := by
  constructor
  · intro heq
    have hlength : (bigEndian 4 m.toNat).length = (bigEndian 4 k.toNat).length := by
      rw [length_bigEndian, length_bigEndian]
    obtain ⟨hnumber, hphrase⟩ := List.append_inj heq hlength
    have hm : m.toNat < 256 ^ 4 := m.toNat_lt
    have hk : k.toNat < 256 ^ 4 := k.toNat_lt
    exact ⟨UInt32.toNat_inj.mp (bigEndian_inj hm hk hnumber), hphrase⟩
  · intro hboth
    rw [seedInput, seedInput, hboth.1, hboth.2]

/-- The same bytes lead to the same account, but for the phrase that it remembers. -/
theorem Profile.fromPhrase_of_phraseBytes_eq (profile : Profile) {p q : String} (nonce : UInt32)
    (heq : phraseBytes p = phraseBytes q) :
    profile.fromPhrase p nonce = { profile.fromPhrase q nonce with seed := some p } := by
  have hseed : accountSeed p nonce = accountSeed q nonce := by
    rw [accountSeed, accountSeed, seedInput_eq_iff.mpr ⟨rfl, heq⟩]
  rw [Profile.fromPhrase, Profile.fromPhrase, hseed]
  rfl

/-! ## §3. Collisions -/

/-- When two pairs of phrase and number are hashed as the same bytes, and what follows. -/
structure SharesInput (p q : String) (m k : UInt32) : Prop where
  shared : seedInput p m = seedInput q k ↔ m = k ∧ (p = q ∨ Misread p q ∨ Misread q p)
  numbers : m ≠ k → seedInput p m ≠ seedInput q k
  /-- Phrases that are written in the same way are told apart. -/
  alike : (Wide p ↔ Wide q) → p ≠ q → seedInput p m ≠ seedInput q k
  /-- Each phrase with a wide character meets exactly one other. -/
  partner : Wide p → ∃ other, ∀ r, Misread p r ↔ r = other
  /-- Two that meet open the same accounts, on every chain and under every scheme. -/
  accounts : Misread p q ∨ Misread q p → ∀ profile : Profile,
    profile.fromPhrase p m = { profile.fromPhrase q m with seed := some p }

/-- **Two phrases are hashed as the same bytes exactly if they are equal or one of them is the other
in UTF-8, read with one character per byte.** -/
theorem shares_input (p q : String) (m k : UInt32) : SharesInput p q m k := by
  constructor
  case shared => rw [seedInput_eq_iff, phraseBytes_eq_iff]
  case numbers => exact fun hne heq => hne (seedInput_eq_iff.mp heq).1
  case alike => exact fun hsame hne heq => hne (phraseBytes_inj hsame (seedInput_eq_iff.mp heq).2)
  case partner =>
    intro hwide
    refine ⟨latinText (Bytes.ofText p), fun r => ⟨fun hmisread => hmisread.other_eq, fun heq => ?_⟩⟩
    exact ⟨hwide, heq ▸ not_wide_latinText _, heq⟩
  case accounts =>
    intro hmeet profile
    exact profile.fromPhrase_of_phraseBytes_eq m (phraseBytes_eq_iff.mpr (.inr hmeet))

/-- A letter of two bytes in UTF-8, and the two letters that these bytes are taken for. -/
example : seedInput "Ā" 7 = seedInput "Ä\u0080" 7 := by
  decide

end Wallet
