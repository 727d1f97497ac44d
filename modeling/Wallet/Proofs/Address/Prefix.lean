import Wallet.Key.Pair
import Wallet.Proofs.Address.Ownership

/-!
# What the text of an address starts with

Version and chain are the first two bytes of an address, so the number of an address lies in an
interval that the chain determines. All these intervals lie between 58^34 and 58^35, so every
address has 35 characters, and the first two of them say how often 58^33 goes into the number
(`prefix_toText`).

It goes into every number of the main network 133 times, which is "3J". Into those of the test
network it goes 136 or 137 times, which is "3M" or "3N", and the hash of the key decides which. So
the two networks can be told apart (`shows_network`), but "3N" alone, which is documented, holds for
little more than half of the addresses on the test network.
-/

namespace Wallet

/-! ## §1. The first digits of a number -/

namespace Radix

/-- The digits of a quotient by a power of the base are the first digits of the number. -/
theorem digits_div_prefix {base : Nat} (hbase : 1 < base) (j n : Nat) :
    digits base (n / base ^ j) <+: digits base n := by
  -- Each division takes the last digit away.
  induction j generalizing n with
  | zero => simp
  | succ j ih =>
    -- The digits of `n / base` are those of `n` without the last.
    have hone : digits base (n / base) <+: digits base n := by
      rw [digits_eq hbase, digits_eq hbase]
      by_cases hzero : n = 0
      · simp [hzero]
      · rw [Nat.digits_def' hbase (Nat.pos_of_ne_zero hzero), List.reverse_cons]
        exact List.prefix_append _ _
    have hrest : digits base (n / base ^ (j + 1)) <+: digits base (n / base) := by
      rw [Nat.pow_succ', ← Nat.div_div_eq_div_mul]
      exact ih (n / base)
    exact hrest.trans hone

/-- A number that lies between two powers has as many digits as the powers say. -/
theorem length_digits {base : Nat} (hbase : 1 < base) {k n : Nat} (hlow : base ^ k ≤ n)
    (hhigh : n < base ^ (k + 1)) : (digits base n).length = k + 1 := by
  rw [digits_eq hbase, List.length_reverse]
  have hgt : k < (Nat.digits base n).length := (Nat.lt_digits_length_iff hbase n).mpr hlow
  have hle : (Nat.digits base n).length ≤ k + 1 := (Nat.digits_length_le_iff hbase n).mpr hhigh
  omega

theorem digits_of_two {base : Nat} (hbase : 1 < base) {n : Nat} (hlow : base ≤ n)
    (hhigh : n < base * base) : digits base n = [n / base, n % base] := by
  have hfirst : 0 < n / base := Nat.div_pos hlow (by omega)
  have hsecond : n / base < base := (Nat.div_lt_iff_lt_mul (by omega)).mpr hhigh
  rw [digits_eq hbase, Nat.digits_def' hbase (by omega), Nat.digits_of_lt base _ (by omega) hsecond]
  rfl

end Radix

namespace Base58

variable {bytes : Bytes}

/-- Without a leading zero, the text starts with the digits of any quotient by a power. -/
theorem prefix_encode (hzeros : leadingZeros bytes = 0) (j : Nat) :
    (Radix.digits 58 (Bytes.toNat bytes / 58 ^ j)).map symbol <+: (encode bytes).toList := by
  rw [encode, String.toList_ofList, encodeChars, hzeros]
  exact (Radix.digits_div_prefix (by decide) j _).map symbol

theorem length_encode (hzeros : leadingZeros bytes = 0) :
    (encode bytes).length = (Radix.digits 58 (Bytes.toNat bytes)).length := by
  rw [encode, String.length_ofList, encodeChars, hzeros]
  simp

end Base58

/-- The first bytes of a byte string leave an interval for its number. -/
theorem Bytes.toNat_take_bounds (bytes : Bytes) (k : Nat) :
    toNat (bytes.take k) * 256 ^ (bytes.drop k).length ≤ toNat bytes ∧
      toNat bytes < (toNat (bytes.take k) + 1) * 256 ^ (bytes.drop k).length := by
  have hrest : toNat (bytes.drop k) < 256 ^ (bytes.drop k).length := toNat_lt _
  have hnumber : toNat bytes =
      toNat (bytes.take k) * 256 ^ (bytes.drop k).length + toNat (bytes.drop k) := by
    conv => lhs; rw [← List.take_append_drop k bytes]
    rw [toNat_eq_value, List.map_append, Radix.value_append, ← toNat_eq_value, ← toNat_eq_value,
      List.length_map]
  rw [hnumber, Nat.succ_mul]
  exact ⟨Nat.le_add_right _ _, Nat.add_lt_add_left hrest _⟩

/-! ## §2. The number of an address -/

namespace Address

variable {key : PublicKey} {chain : Char} {a : Address}

theorem take_two_bytes (a : Address) : a.bytes.take 2 = [version, a.chainByte] := by
  have htake : a.bytes.take 2 = (a.bytes.take 22).take 2 := by rw [List.take_take]; rfl
  rw [htake, take_bytes]
  rfl

/-- The version is not zero, so an address has no leading zeros. -/
theorem leadingZeros_bytes (a : Address) : Base58.leadingZeros a.bytes = 0 := by
  rw [Base58.leadingZeros, ← List.take_append_drop 2 a.bytes, take_two_bytes]
  rfl

/-- Version and chain are the upper two digits of the number. -/
theorem toNat_bytes_bounds (a : Address) :
    (256 + a.chainByte.toNat) * 256 ^ 24 ≤ Bytes.toNat a.bytes ∧
      Bytes.toNat a.bytes < (256 + a.chainByte.toNat + 1) * 256 ^ 24 := by
  have hbounds := Bytes.toNat_take_bounds a.bytes 2
  have hhead : Bytes.toNat [version, a.chainByte] = 256 + a.chainByte.toNat := rfl
  have hrest : (a.bytes.drop 2).length = 24 := by
    rw [List.length_drop, show a.bytes.length = 26 from a.octets.length_eq]
  rwa [take_two_bytes, hhead, hrest] at hbounds

/-- How often the place value of the third character goes into the number. -/
def lead (a : Address) : Nat :=
  Bytes.toNat a.bytes / 58 ^ 33

/-- It has two digits on every chain. -/
theorem lead_bounds (a : Address) : 58 ≤ a.lead ∧ a.lead < 58 * 58 := by
  obtain ⟨hlow, hhigh⟩ := a.toNat_bytes_bounds
  have hchain := a.chainByte.toNat_lt
  unfold lead
  omega

theorem length_toText (a : Address) : a.toText.length = 35 := by
  obtain ⟨hlow, hhigh⟩ := a.toNat_bytes_bounds
  have hchain := a.chainByte.toNat_lt
  rw [toText, Base58.length_encode a.leadingZeros_bytes]
  apply Radix.length_digits (by decide)
  · omega
  · omega

/-- The first two characters are the digits of the quotient. -/
theorem prefix_toText (a : Address) :
    [Base58.symbol (a.lead / 58), Base58.symbol (a.lead % 58)] <+: a.toText.toList := by
  obtain ⟨hlow, hhigh⟩ := a.lead_bounds
  have hdigits : Radix.digits 58 a.lead = [a.lead / 58, a.lead % 58] :=
    Radix.digits_of_two (by decide) hlow hhigh
  have hprefix := Base58.prefix_encode a.leadingZeros_bytes 33
  rw [show Bytes.toNat a.bytes / 58 ^ 33 = a.lead from rfl, hdigits] at hprefix
  exact hprefix

theorem take_toText (a : Address) :
    a.toText.toList.take 2 = [Base58.symbol (a.lead / 58), Base58.symbol (a.lead % 58)] :=
  (List.prefix_iff_eq_take.mp a.prefix_toText).symm

/-! ## §3. The two public networks -/

theorem eq_derive_of_ofPublicKey (hderive : ofPublicKey key chain = .ok a) :
    a = derive (UInt8.ofNat chain.toNat) key := by
  rw [ofPublicKey, if_pos (isChainId_of_ofPublicKey hderive)] at hderive
  exact (Except.ok.inj hderive).symm

theorem chainByte_of_ofPublicKey (hderive : ofPublicKey key chain = .ok a) :
    a.chainByte = UInt8.ofNat chain.toNat := by
  rw [eq_derive_of_ofPublicKey hderive, chainByte_derive]

/-- The numbers of the main network all have the same quotient. -/
theorem lead_mainnet (hderive : ofPublicKey key Network.mainnet = .ok a) : a.lead = 133 := by
  have hchain : a.chainByte = 76 := chainByte_of_ofPublicKey hderive
  obtain ⟨hlow, hhigh⟩ := a.toNat_bytes_bounds
  rw [hchain] at hlow hhigh
  unfold lead
  simp only [UInt8.reduceToNat] at hlow hhigh
  omega

/-- Those of the test network have two. -/
theorem lead_testnet (hderive : ofPublicKey key Network.testnet = .ok a) :
    136 ≤ a.lead ∧ a.lead ≤ 137 := by
  have hchain : a.chainByte = 84 := chainByte_of_ofPublicKey hderive
  obtain ⟨hlow, hhigh⟩ := a.toNat_bytes_bounds
  rw [hchain] at hlow hhigh
  unfold lead
  simp only [UInt8.reduceToNat] at hlow hhigh
  omega

/-- A text on the main network starts with "3J". -/
theorem prefix_mainnet (hderive : ofPublicKey key Network.mainnet = .ok a) :
    "3J".toList <+: a.toText.toList := by
  have hprefix := a.prefix_toText
  rw [lead_mainnet hderive] at hprefix
  exact hprefix

/-- A text on the test network starts with "3N" if the number is large enough, and with "3M" if it
is not. -/
theorem prefix_testnet (hderive : ofPublicKey key Network.testnet = .ok a) :
    137 * 58 ^ 33 ≤ Bytes.toNat a.bytes ∧ "3N".toList <+: a.toText.toList ∨
      Bytes.toNat a.bytes < 137 * 58 ^ 33 ∧ "3M".toList <+: a.toText.toList := by
  obtain ⟨hlow, hhigh⟩ := lead_testnet hderive
  have hprefix := a.prefix_toText
  -- The quotient is 136 or 137, and 137 means that the number has reached 137 times the divisor.
  by_cases hnumber : 137 * 58 ^ 33 ≤ Bytes.toNat a.bytes
  · have hlead : a.lead = 137 := by
      have hle : 137 ≤ a.lead := (Nat.le_div_iff_mul_le (by decide)).mpr hnumber
      omega
    rw [hlead] at hprefix
    exact .inl ⟨hnumber, hprefix⟩
  · have hlead : a.lead = 136 := by
      have hlt : a.lead < 137 := (Nat.div_lt_iff_lt_mul (by decide)).mpr (by omega)
      omega
    rw [hlead] at hprefix
    exact .inr ⟨by omega, hprefix⟩

/-- A text starts with two characters in one way only. -/
theorem prefix_inj {a : Address} {front back : List Char} (hlength : front.length = back.length)
    (hfront : front <+: a.toText.toList) (hback : back <+: a.toText.toList) : front = back := by
  rw [List.prefix_iff_eq_take.mp hfront, List.prefix_iff_eq_take.mp hback, hlength]

/-- On the test network the number decides between the two. -/
theorem prefix_testnet_iff (hderive : ofPublicKey key Network.testnet = .ok a) :
    "3N".toList <+: a.toText.toList ↔ 137 * 58 ^ 33 ≤ Bytes.toNat a.bytes := by
  rcases prefix_testnet hderive with ⟨hnumber, hprefix⟩ | ⟨hnumber, hprefix⟩
  · exact iff_of_true hprefix hnumber
  · refine iff_of_false (fun hother => ?_) (by omega)
    -- A text cannot start both ways.
    have hlength : "3N".toList.length = "3M".toList.length := by decide
    have hne : "3N".toList ≠ "3M".toList := by decide
    exact hne (prefix_inj hlength hother hprefix)

/-- Behind the chain comes the hash of the key. -/
theorem take_three_bytes (hderive : ofPublicKey key chain = .ok a) : a.bytes.take 3 =
    [version, a.chainByte, (Hash.secure key.bytes).list.getD 0 0] := by
  have hlength := (Hash.secure key.bytes).length_eq
  rw [eq_derive_of_ofPublicKey hderive, bytes_derive, chainByte_derive, cutFrom]
  cases hhash : (Hash.secure key.bytes).list with
  | nil => simp [hhash] at hlength
  | cons first rest => rfl

/-- With the first byte of the hash the interval is narrower by a factor of 256. -/
theorem toNat_bytes_bounds_of_hash {first : UInt8}
    (hfirst : (Hash.secure key.bytes).list.getD 0 0 = first)
    (hderive : ofPublicKey key Network.testnet = .ok a) :
    (340 * 256 + first.toNat) * 256 ^ 23 ≤ Bytes.toNat a.bytes ∧
      Bytes.toNat a.bytes < (340 * 256 + first.toNat + 1) * 256 ^ 23 := by
  have hchain : a.chainByte = 84 := chainByte_of_ofPublicKey hderive
  have hbounds := Bytes.toNat_take_bounds a.bytes 3
  have hrest : (a.bytes.drop 3).length = 23 := by
    rw [List.length_drop, show a.bytes.length = 26 from a.octets.length_eq]
  have hhead : Bytes.toNat [version, 84, first] = 340 * 256 + first.toNat := by
    simp [Bytes.toNat, version]
  rwa [take_three_bytes hderive, hchain, hfirst, hhead, hrest] at hbounds

/-- The first byte of the hash decides, unless it is 121. -/
theorem prefix_of_hash {first : UInt8}
    (hfirst : (Hash.secure key.bytes).list.getD 0 0 = first)
    (hderive : ofPublicKey key Network.testnet = .ok a) :
    (first.toNat < 121 → "3M".toList <+: a.toText.toList) ∧
      (121 < first.toNat → "3N".toList <+: a.toText.toList) := by
  obtain ⟨hlow, hhigh⟩ := toNat_bytes_bounds_of_hash hfirst hderive
  rcases prefix_testnet hderive with ⟨hnumber, hprefix⟩ | ⟨hnumber, hprefix⟩
  · refine ⟨fun hsmall => ?_, fun _ => hprefix⟩
    -- The first byte leaves an interval on one side of the bound.
    omega
  · refine ⟨fun _ => hprefix, fun hlarge => ?_⟩
    omega

/-- What is documented: the texts of a key on the two public networks start in one way each. -/
structure NamesNetwork (key : PublicKey) : Prop where
  mainnet : ∀ a, ofPublicKey key Network.mainnet = .ok a → "3J".toList <+: a.toText.toList
  testnet : ∀ a, ofPublicKey key Network.testnet = .ok a → "3N".toList <+: a.toText.toList

/-- What the texts of the addresses of a key start with. -/
structure ShowsNetwork (key : PublicKey) : Prop where
  /-- It is as documented exactly if the number of the address on the test network is large
  enough. -/
  documented : ∀ a, ofPublicKey key Network.testnet = .ok a →
    (NamesNetwork key ↔ 137 * 58 ^ 33 ≤ Bytes.toNat a.bytes)
  mainnet : ∃ a, ofPublicKey key Network.mainnet = .ok a ∧ "3J".toList <+: a.toText.toList
  testnet : ∃ a, ofPublicKey key Network.testnet = .ok a ∧
    (137 * 58 ^ 33 ≤ Bytes.toNat a.bytes ∧ "3N".toList <+: a.toText.toList ∨
      Bytes.toNat a.bytes < 137 * 58 ^ 33 ∧ "3M".toList <+: a.toText.toList)
  /-- The hash of the key decides with its first byte, unless that is 121. -/
  hash : ∀ a first, ofPublicKey key Network.testnet = .ok a →
    (Hash.secure key.bytes).list.getD 0 0 = first →
      (first.toNat < 121 → "3M".toList <+: a.toText.toList) ∧
        (121 < first.toNat → "3N".toList <+: a.toText.toList)
  /-- No text on the one network starts like any text on the other. -/
  apart : ∀ other a b, ofPublicKey key Network.mainnet = .ok a →
    ofPublicKey other Network.testnet = .ok b → a.toText.toList.take 2 ≠ b.toText.toList.take 2
  /-- On any chain, a text has 35 characters, and the first two are the digits of a quotient. -/
  digits : ∀ chain a, ofPublicKey key chain = .ok a → a.toText.length = 35 ∧
    a.toText.toList.take 2 = [Base58.symbol (Bytes.toNat a.bytes / 58 ^ 33 / 58),
      Base58.symbol (Bytes.toNat a.bytes / 58 ^ 33 % 58)]

/-- **The text of an address shows on which of the two public networks it is**: one on the main
network starts with "3J", and one on the test network with "3N" or "3M". -/
theorem shows_network (key : PublicKey) : ShowsNetwork key := by
  constructor
  case documented =>
    intro a hderive
    rw [← prefix_testnet_iff hderive]
    constructor
    · intro hnames
      exact hnames.testnet a hderive
    · intro hprefix
      refine ⟨fun _ hother => prefix_mainnet hother, fun b hother => ?_⟩
      have hsame : b = a := Except.ok.inj (hother.symm.trans hderive)
      rwa [hsame]
  case mainnet =>
    have hascii : Network.mainnet.toNat < 128 := by decide
    have hderive := ofPublicKey_of_ascii key hascii
    exact ⟨_, hderive, prefix_mainnet hderive⟩
  case testnet =>
    have hascii : Network.testnet.toNat < 128 := by decide
    have hderive := ofPublicKey_of_ascii key hascii
    exact ⟨_, hderive, prefix_testnet hderive⟩
  case hash => exact fun a first hderive hfirst => prefix_of_hash hfirst hderive
  case apart =>
    intro other a b hmain htest hsame
    obtain ⟨hlow, hhigh⟩ := lead_testnet htest
    -- The second digits are 17 on the one network, and 20 or 21 on the other.
    have hsecond : ∀ d : Fin 58, Base58.symbol 17 = Base58.symbol d → d.val = 17 := by
      decide
    rw [a.take_toText, b.take_toText, lead_mainnet hmain] at hsame
    have hsymbols : Base58.symbol 17 = Base58.symbol (b.lead % 58) :=
      (List.cons.inj (List.cons.inj hsame).2).1
    have hdigit : b.lead % 58 = 17 := hsecond ⟨_, Nat.mod_lt _ (by decide)⟩ hsymbols
    omega
  case digits => exact fun chain a _ => ⟨a.length_toText, a.take_toText⟩

/-- The key of the secret one on secp256r1. Its text on the test network starts with "3M". -/
theorem exists_unnamed_network : ∃ (pair : KeyPair) (a : Address),
    ofPublicKey pair.publicKey Network.testnet = .ok a ∧
      a.toText = "3MusnQW1Fa5psrLUw3JAmMPPbM3cwdUCmux" ∧ ¬ NamesNetwork pair.publicKey := by
  let one : SecretScalar .secp256r1 := ⟨1, by decide, by decide⟩
  have hascii : Network.testnet.toNat < 128 := by decide
  have hderive := ofPublicKey_of_ascii (KeyPair.secp256r1 one).publicKey hascii
  have htext : (derive (UInt8.ofNat Network.testnet.toNat)
      (KeyPair.secp256r1 one).publicKey).toText = "3MusnQW1Fa5psrLUw3JAmMPPbM3cwdUCmux" := by
    decide +kernel
  refine ⟨.secp256r1 one, _, hderive, htext, fun hnames => ?_⟩
  have hprefix := hnames.testnet _ hderive
  rw [htext] at hprefix
  exact absurd hprefix (by decide)

end Address

end Wallet
