import Wallet.Proofs.Address
import Wallet.Proofs.Outcome

/-!
# Damaged addresses

The checksum is checked before the version, so a byte that was changed is reported as a wrong
checksum wherever it stands. If one of the last four bytes was changed, the checksum is another one
over the same body. If one of the first 22 was changed, it is the same checksum over another body,
and only a collision of the hash can make it right again. What is reported then is said as well.

A byte string of another length is reported by its length, whatever else is wrong with it.
-/

namespace Wallet.Address

/-! ## §1. The checks in their order -/

theorem ofBytes_of_length {bytes : Bytes} (hlength : bytes.length ≠ 26) :
    ofBytes bytes = .error (.wrongLength bytes.length) :=
  dif_neg hlength

/-- The checksum is all that is looked at in a byte string of the right length, unless it is right. -/
theorem ofBytes_eq_wrongChecksum_iff {bytes : Bytes} (hlength : bytes.length = 26) :
    ofBytes bytes = .error .wrongChecksum ↔ bytes.drop 22 ≠ checksum (bytes.take 22) := by
  unfold ofBytes
  rw [dif_pos hlength]
  by_cases hchecksum : bytes.drop 22 = checksum (bytes.take 22)
  · rw [dif_pos hchecksum]
    -- The version may be wrong, but that is another error.
    split <;> simp [hchecksum]
  · simp [hchecksum]

/-- With the right length and checksum only the version can be wrong. -/
theorem ofBytes_of_checksum {bytes : Bytes} (hlength : bytes.length = 26)
    (hchecksum : bytes.drop 22 = checksum (bytes.take 22)) :
    (bytes.getD 0 0 = version ∧ ∃ a : Address, a.bytes = bytes ∧ ofBytes bytes = .ok a) ∨
      (bytes.getD 0 0 ≠ version ∧
        ofBytes bytes = .error (.wrongVersion (bytes.getD 0 0))) := by
  unfold ofBytes
  rw [dif_pos hlength, dif_pos hchecksum]
  by_cases hversion : bytes.getD 0 0 = version
  · rw [dif_pos hversion]
    exact .inl ⟨hversion, _, rfl, rfl⟩
  · rw [dif_neg hversion]
    exact .inr ⟨hversion, rfl⟩

theorem ofText_encode (bytes : Bytes) : ofText (Base58.encode bytes) = ofBytes bytes := by
  rw [ofText, Base58.decode_encode]

/-- The text of a byte string is reported for what is wrong with the byte string. -/
theorem validate_encode_eq_error_iff {bytes : Bytes} {e : AddressError} :
    validate (Base58.encode bytes) = .error e ↔ ofBytes bytes = .error e := by
  rw [validate, ofText_encode]
  cases ofBytes bytes <;> simp

/-! ## §2. One byte -/

/-- The second byte string differs from the first in one place and nowhere else. -/
structure DiffersAt (i : Nat) (x y : Bytes) : Prop where
  length : y.length = x.length
  place : ∀ j, y[j]? ≠ x[j]? ↔ j = i

variable {i n : Nat} {x y : Bytes}

theorem DiffersAt.getElem?_eq (hdiffers : DiffersAt i x y) {j : Nat} (hj : j ≠ i) :
    y[j]? = x[j]? := by
  by_contra hne
  exact hj ((hdiffers.place j).mp hne)

/-- What stands in front of the place is the same. -/
theorem DiffersAt.take_eq (hdiffers : DiffersAt i x y) (hi : n ≤ i) : y.take n = x.take n := by
  apply List.ext_getElem?
  intro j
  by_cases hj : j < n
  · rw [List.getElem?_take_of_lt hj, List.getElem?_take_of_lt hj]
    exact hdiffers.getElem?_eq (by omega)
  · rw [List.getElem?_take_eq_none (by omega), List.getElem?_take_eq_none (by omega)]

/-- So is what stands behind it. -/
theorem DiffersAt.drop_eq (hdiffers : DiffersAt i x y) (hi : i < n) : y.drop n = x.drop n := by
  apply List.ext_getElem?
  intro j
  rw [List.getElem?_drop, List.getElem?_drop]
  exact hdiffers.getElem?_eq (by omega)

theorem DiffersAt.drop_ne (hdiffers : DiffersAt i x y) (hi : n ≤ i) : y.drop n ≠ x.drop n := by
  intro hsame
  have hplace : y[n + (i - n)]? = x[n + (i - n)]? := by
    rw [← List.getElem?_drop, ← List.getElem?_drop, hsame]
  rw [Nat.add_sub_cancel' hi] at hplace
  exact (hdiffers.place i).mpr rfl hplace

theorem DiffersAt.getD_eq_iff (hdiffers : DiffersAt i x y) {j : Nat} (hj : j < x.length) :
    y.getD j 0 = x.getD j 0 ↔ j ≠ i := by
  have hj' : j < y.length := hdiffers.length ▸ hj
  have hplace : y[j]? = x[j]? ↔ j ≠ i := by
    rw [← not_iff_not, not_not]
    exact hdiffers.place j
  rw [← hplace, List.getD_eq_getElem?_getD, List.getD_eq_getElem?_getD,
    List.getElem?_eq_getElem hj', List.getElem?_eq_getElem hj, Option.some_inj]
  rfl

/-! ## §3. Addresses -/

variable {a : Address} {bytes : Bytes}

/-- A change is reported as a wrong checksum unless it leads to a collision in front of it. -/
theorem DiffersAt.ofBytes_eq_wrongChecksum_iff (hdiffers : DiffersAt i a.bytes bytes) :
    ofBytes bytes = .error .wrongChecksum ↔
      ¬ (i < 22 ∧ checksum (bytes.take 22) = checksum (a.bytes.take 22)) := by
  have hlength : bytes.length = 26 := hdiffers.length.trans a.octets.length_eq
  have hchecksum : a.bytes.drop 22 = checksum (a.bytes.take 22) := a.checksum_eq
  rw [Address.ofBytes_eq_wrongChecksum_iff hlength, ne_eq, not_iff_not]
  by_cases hi : i < 22
  · -- The body is another one, and the checksum that is there is still the one of the old body.
    rw [hdiffers.drop_eq hi, hchecksum, and_iff_right hi]
    exact eq_comm
  · -- The checksum is another one, and the body is the old one.
    have hbody : bytes.take 22 = a.bytes.take 22 := hdiffers.take_eq (by omega)
    have hother : bytes.drop 22 ≠ a.bytes.drop 22 := hdiffers.drop_ne (by omega)
    rw [hbody, ← hchecksum]
    exact iff_of_false hother fun hcollision => hi hcollision.1

/-- If the checksum is right again, the version decides, which only a change in the first place can
make a wrong one. -/
theorem DiffersAt.ofBytes_of_collision (hdiffers : DiffersAt i a.bytes bytes) (hi : i < 22)
    (hcollision : checksum (bytes.take 22) = checksum (a.bytes.take 22)) :
    (i = 0 → ofBytes bytes = .error (.wrongVersion (bytes.getD 0 0))) ∧
      (i ≠ 0 → ∃ other : Address, other.bytes = bytes ∧ ofBytes bytes = .ok other) := by
  have hlength : bytes.length = 26 := hdiffers.length.trans a.octets.length_eq
  have hchecksum : bytes.drop 22 = checksum (bytes.take 22) := by
    rw [hdiffers.drop_eq hi, hcollision]
    exact a.checksum_eq
  -- The version stands in the first place and was right before the change.
  have hversion : bytes.getD 0 0 = version ↔ i ≠ 0 := by
    have hold : a.bytes.getD 0 0 = version := a.version_eq
    have hroom : 0 < a.bytes.length := by
      rw [show a.bytes.length = 26 from a.octets.length_eq]
      decide
    rw [← hold, hdiffers.getD_eq_iff hroom]
    exact ne_comm
  rcases ofBytes_of_checksum hlength hchecksum with ⟨hright, hread⟩ | ⟨hwrong, hread⟩
  · exact ⟨fun hzero => (hversion.mp hright hzero).elim, fun _ => hread⟩
  · exact ⟨fun _ => hread, fun hne => (hwrong (hversion.mpr hne)).elim⟩

/-- How a byte string is reported that an address has become by damage. -/
structure Damage (a : Address) : Prop where
  /-- One changed byte is a wrong checksum, unless it stands in front of the checksum and the two
  bodies have the same four bytes of hash. -/
  changed : ∀ i bytes, DiffersAt i a.bytes bytes →
    (ofBytes bytes = .error .wrongChecksum ↔
      ¬ (i < 22 ∧ (Hash.secure (bytes.take 22)).list.take 4 =
        (Hash.secure (a.bytes.take 22)).list.take 4))
  /-- There is no exception for the checksum itself. -/
  checksum : ∀ i bytes, DiffersAt i a.bytes bytes → 22 ≤ i →
    ofBytes bytes = .error .wrongChecksum
  /-- As text it is reported alike. -/
  text : ∀ i bytes, DiffersAt i a.bytes bytes →
    (validate (Base58.encode bytes) = .error .wrongChecksum ↔
      ofBytes bytes = .error .wrongChecksum)
  /-- In case of a collision, the version byte is reported or nothing is. -/
  collision : ∀ i bytes, DiffersAt i a.bytes bytes → i < 22 →
    (Hash.secure (bytes.take 22)).list.take 4 = (Hash.secure (a.bytes.take 22)).list.take 4 →
      (i = 0 → ofBytes bytes = .error (.wrongVersion (bytes.getD 0 0))) ∧
        (i ≠ 0 → ∃ other : Address, other.bytes = bytes ∧ ofBytes bytes = .ok other)
  /-- Lost or added bytes are reported by the length, whatever the others are. -/
  length : ∀ bytes : Bytes, bytes.length ≠ 26 →
    ofBytes bytes = .error (.wrongLength bytes.length) ∧
      validate (Base58.encode bytes) = .error (.wrongLength bytes.length)

/-- **A changed byte is reported as a wrong checksum, unless the hash has a collision.** -/
theorem damage_reported (a : Address) : Damage a where
  changed _ _ hdiffers := hdiffers.ofBytes_eq_wrongChecksum_iff
  checksum _ _ hdiffers hi :=
    hdiffers.ofBytes_eq_wrongChecksum_iff.mpr fun hcollision => absurd hcollision.1 (by omega)
  text _ _ _ := validate_encode_eq_error_iff
  collision _ _ hdiffers hi hcollision := hdiffers.ofBytes_of_collision hi hcollision
  length bytes hlength :=
    have hread := ofBytes_of_length hlength
    ⟨hread, validate_encode_eq_error_iff.mpr hread⟩

end Wallet.Address
