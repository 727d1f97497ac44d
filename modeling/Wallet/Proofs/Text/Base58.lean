import Wallet.Proofs.Numeral
import Wallet.Text.Base58

/-!
# Base58 reads what it writes

Writing splits a byte string into its leading zeros and a numeral, and reading puts the two
together again. `decode_encode` says that nothing is lost on the way, leading zeros included, and
`encode_of_decode` that a byte string has no other text than the one it is written as.

Which bytes a text stands for can be said without the two programs: `Spells` compares the numbers
and the leading zeros, and `decode_eq_ok_iff_spells` says that reading does the same.
-/

namespace Wallet.Base58

/-! ## §1. Symbols -/

theorem digit?_symbol_all : ∀ d : Fin 58, digit? (symbol d) = some d.val := by
  decide

theorem digit?_symbol {d : Nat} (hd : d < 58) : digit? (symbol d) = some d :=
  digit?_symbol_all ⟨d, hd⟩

theorem symbol_zero : symbol 0 = '1' := by
  decide

/-- No character is bad if every one has a digit. -/
theorem firstBad_eq_none_iff {cs : List Char} :
    firstBad cs = none ↔ ∀ c ∈ cs, ∃ d, digit? c = some d := by
  rw [firstBad, List.find?_eq_none]
  constructor
  · intro hgood c hc
    obtain ⟨position, hposition, rfl⟩ := List.getElem_of_mem hc
    have hdigit := hgood (cs[position], position)
      (List.mem_zipIdx_iff_getElem?.mpr (List.getElem?_eq_getElem hposition))
    exact Option.ne_none_iff_exists'.mp (by simpa using hdigit)
  · rintro hdigit ⟨c, position⟩ hmem
    have hc : c ∈ cs := (List.mem_zipIdx' hmem).2 ▸ List.getElem_mem _
    obtain ⟨d, hd⟩ := hdigit c hc
    simp [hd]

theorem firstBad_map_symbol {ds : List Nat} (hlt : ∀ d ∈ ds, d < 58) :
    firstBad (ds.map symbol) = none := by
  rw [firstBad_eq_none_iff]
  intro c hc
  obtain ⟨d, hd, rfl⟩ := List.mem_map.mp hc
  exact ⟨d, digit?_symbol (hlt d hd)⟩

/-- Symbols are read as the bytes of their digits. -/
theorem decodeChars_map_symbol {ds : List Nat} (hlt : ∀ d ∈ ds, d < 58) :
    decodeChars (ds.map symbol) = .ok (ofDigits ds) := by
  have hdigits : (ds.map symbol).map (fun c => (digit? c).getD 0) = ds := by
    apply map_map_eq_self
    intro d hd
    simp [digit?_symbol (hlt d hd)]
  rw [decodeChars, firstBad_map_symbol hlt]
  simp only [hdigits]

/-! ## §2. Leading zeros -/

section Zeros

variable {α : Type} [BEq α] [LawfulBEq α]

theorem takeWhile_zeros_append {zero : α} {count : Nat} {ds : List α}
    (hhead : ∀ d rest, ds = d :: rest → d ≠ zero) :
    (List.replicate count zero ++ ds).takeWhile (· == zero) = List.replicate count zero := by
  rw [List.takeWhile_append_of_pos (by simp)]
  cases ds with
  | nil => simp
  | cons d rest => simp [hhead d rest rfl]

/-- A list is its leading zeros and what comes after them. -/
theorem eq_zeros_append (zero : α) (ds : List α) :
    ds = List.replicate (ds.takeWhile (· == zero)).length zero ++ ds.dropWhile (· == zero) := by
  have hzeros : ds.takeWhile (· == zero) =
      List.replicate (ds.takeWhile (· == zero)).length zero := by
    refine List.eq_replicate_iff.mpr ⟨rfl, ?_⟩
    intro d hd
    simpa using List.all_eq_true.mp List.all_takeWhile d hd
  rw [← hzeros, List.takeWhile_append_dropWhile]

/-- What comes after the leading zeros does not start with one. -/
theorem dropWhile_zeros_head {zero d : α} {ds rest : List α}
    (heq : ds.dropWhile (· == zero) = d :: rest) : d ≠ zero := by
  have hhead := List.head?_dropWhile_not (· == zero) ds
  simpa [heq] using hhead

end Zeros

/-- The number of a byte string starts with a digit other than zero. -/
theorem map_dropWhile_zeros_head (bytes : Bytes) (d : Nat) (rest : List Nat)
    (heq : (bytes.dropWhile (· == 0)).map UInt8.toNat = d :: rest) : d ≠ 0 := by
  obtain ⟨byte, tail, hdrop, rfl, -⟩ := List.map_eq_cons_iff.mp heq
  intro hzero
  exact dropWhile_zeros_head hdrop (UInt8.toNat_inj.mp hzero)

/-- Behind its leading zeros a byte string consists of the digits of its number. -/
theorem digits_toNat (bytes : Bytes) :
    (Radix.digits 256 (Bytes.toNat bytes)).map UInt8.ofNat = bytes.dropWhile (· == 0) := by
  -- The zeros in front do not count, and what is left does not start with one.
  have hvalue : Bytes.toNat bytes =
      Radix.value 256 ((bytes.dropWhile (· == 0)).map UInt8.toNat) := by
    conv => lhs; rw [eq_zeros_append 0 bytes]
    rw [Bytes.toNat_eq_value, List.map_append, List.map_replicate]
    exact Radix.value_replicate_append ..
  have hlt : ∀ d ∈ (bytes.dropWhile (· == 0)).map UInt8.toNat, d < 256 := by
    intro d hd
    obtain ⟨byte, -, rfl⟩ := List.mem_map.mp hd
    exact byte.toNat_lt
  rw [hvalue, Radix.digits_value (by decide) hlt (map_dropWhile_zeros_head bytes)]
  exact map_map_eq_self fun _ _ => UInt8.ofNat_toNat

/-! ## §3. The round trip -/

/-- The digits that a byte string is written with. -/
theorem encodeChars_eq_map (bytes : Bytes) :
    encodeChars bytes =
      (List.replicate (leadingZeros bytes) 0 ++ Radix.digits 58 (Bytes.toNat bytes)).map
        symbol := by
  rw [List.map_append, List.map_replicate, symbol_zero, encodeChars]

/-- Leading zeros and a numeral become leading zeros and the bytes of the number. -/
theorem ofDigits_zeros_append (count n : Nat) :
    ofDigits (List.replicate count 0 ++ Radix.digits 58 n) =
      List.replicate count 0 ++ (Radix.digits 256 n).map UInt8.ofNat := by
  have hhead : ∀ d rest, Radix.digits 58 n = d :: rest → d ≠ 0 :=
    fun _ _ => Radix.head_digits_ne_zero (by decide)
  rw [ofDigits, takeWhile_zeros_append hhead, List.length_replicate,
    Radix.value_replicate_append, Radix.value_digits (by decide)]

theorem lt_of_mem_zeros_append {count n : Nat} :
    ∀ d ∈ List.replicate count 0 ++ Radix.digits 58 n, d < 58 := by
  intro d hd
  -- A leading zero is written with the symbol of the digit zero.
  rcases List.mem_append.mp hd with hzero | hdigit
  · rw [List.eq_of_mem_replicate hzero]
    decide
  · exact Radix.lt_of_mem_digits (by decide) hdigit

theorem decodeChars_encodeChars (bytes : Bytes) : decodeChars (encodeChars bytes) = .ok bytes := by
  rw [encodeChars_eq_map, decodeChars_map_symbol lt_of_mem_zeros_append, ofDigits_zeros_append,
    digits_toNat, leadingZeros, ← eq_zeros_append]

/-- **Base58 loses nothing.** -/
@[simp] theorem decode_encode (bytes : Bytes) : decode (encode bytes) = .ok bytes := by
  rw [decode, encode, String.toList_ofList, decodeChars_encodeChars]

/-! ## §4. What was read is written again -/

theorem symbol_of_digit? {c : Char} {d : Nat} (hdigit : digit? c = some d) :
    d < 58 ∧ symbol d = c := by
  have hlength : alphabet.length = 58 := by decide
  obtain ⟨hlt, hsymbol, -⟩ := List.findIdx?_eq_some_iff_getElem.mp hdigit
  refine ⟨hlength ▸ hlt, ?_⟩
  rw [symbol, List.getD_eq_getElem?_getD, List.getElem?_eq_getElem hlt]
  simpa using hsymbol

/-- Characters that are read are the symbols of digits. -/
theorem eq_map_symbol_of_decodeChars {cs : List Char} {bytes : Bytes}
    (hread : decodeChars cs = .ok bytes) :
    ∃ ds, (∀ d ∈ ds, d < 58) ∧ ds.map symbol = cs ∧ ofDigits ds = bytes := by
  unfold decodeChars at hread
  split at hread
  · cases hread
  · next hnone =>
    cases hread
    have hdigit := firstBad_eq_none_iff.mp hnone
    refine ⟨cs.map fun c => (digit? c).getD 0, ?_, ?_, rfl⟩
    · intro d hd
      obtain ⟨c, hc, rfl⟩ := List.mem_map.mp hd
      obtain ⟨d, hd⟩ := hdigit c hc
      rw [hd]
      exact (symbol_of_digit? hd).1
    · apply map_map_eq_self
      intro c hc
      obtain ⟨d, hd⟩ := hdigit c hc
      simpa [hd] using (symbol_of_digit? hd).2

theorem toNat_ofNat_of_mem_digits {n d : Nat} (hd : d ∈ Radix.digits 256 n) :
    (UInt8.ofNat d).toNat = d := by
  have hlt : d < 256 := Radix.lt_of_mem_digits (by decide) hd
  simp [Nat.mod_eq_of_lt hlt]

theorem map_digits_head_ne_zero {n : Nat} (byte : UInt8) (rest : Bytes)
    (heq : (Radix.digits 256 n).map UInt8.ofNat = byte :: rest) : byte ≠ 0 := by
  obtain ⟨d, ds, hdigits, rfl, -⟩ := List.map_eq_cons_iff.mp heq
  have hback : (UInt8.ofNat d).toNat = d :=
    toNat_ofNat_of_mem_digits (hdigits ▸ List.mem_cons_self)
  intro hzero
  apply Radix.head_digits_ne_zero (by decide) hdigits
  rw [← hback, hzero]
  rfl

/-- The number of the bytes that digits stand for is the number that the digits spell. -/
theorem toNat_zeros_append (count n : Nat) :
    Bytes.toNat (List.replicate count 0 ++ (Radix.digits 256 n).map UInt8.ofNat) = n := by
  have hback : ((Radix.digits 256 n).map UInt8.ofNat).map UInt8.toNat = Radix.digits 256 n :=
    map_map_eq_self fun d hd => toNat_ofNat_of_mem_digits hd
  rw [Bytes.toNat_eq_value, List.map_append, List.map_replicate, hback]
  calc Radix.value 256 (List.replicate count 0 ++ Radix.digits 256 n)
      _ = Radix.value 256 (Radix.digits 256 n) := Radix.value_replicate_append ..
      _ = n := Radix.value_digits (by decide) n

theorem encodeChars_ofDigits {ds : List Nat} (hlt : ∀ d ∈ ds, d < 58) :
    encodeChars (ofDigits ds) = ds.map symbol := by
  -- The digits are their leading zeros and the numeral behind them; each half is written again.
  have hzeros : leadingZeros (ofDigits ds) = (ds.takeWhile (· == 0)).length := by
    rw [leadingZeros, ofDigits, takeWhile_zeros_append map_digits_head_ne_zero,
      List.length_replicate]
  have hvalue : Radix.value 58 ds = Radix.value 58 (ds.dropWhile (· == 0)) := by
    conv => lhs; rw [eq_zeros_append 0 ds]
    exact Radix.value_replicate_append ..
  have hdigits : Radix.digits 58 (Radix.value 58 ds) = ds.dropWhile (· == 0) := by
    rw [hvalue]
    refine Radix.digits_value (by decide) ?_ fun _ _ => dropWhile_zeros_head
    exact fun d hd => hlt d (List.dropWhile_subset _ hd)
  rw [encodeChars_eq_map, hzeros, ofDigits, toNat_zeros_append, hdigits, ← eq_zeros_append]

/-- **Base58 is canonical**: a text that is accepted is the one that its bytes are written as. -/
theorem encode_of_decode {text : String} {bytes : Bytes} (hread : decode text = .ok bytes) :
    encode bytes = text := by
  obtain ⟨ds, hlt, hchars, rfl⟩ := eq_map_symbol_of_decodeChars hread
  rw [encode, encodeChars_ofDigits hlt, hchars, String.ofList_toList]

theorem decode_eq_ok_iff {text : String} {bytes : Bytes} :
    decode text = .ok bytes ↔ text = encode bytes := by
  constructor
  · intro hread
    exact (encode_of_decode hread).symm
  · rintro rfl
    exact decode_encode bytes

/-! ## §5. What a text spells -/

/-- The text is a numeral for the bytes. It consists of symbols, the places of these in the
alphabet are the digits of the number of the bytes, and it starts with as many ones as the bytes
start with zeros. -/
structure Spells (text : String) (bytes : Bytes) : Prop where
  symbols : ∀ c ∈ text.toList, c ∈ alphabet
  value : Radix.value 58 (text.toList.map fun c => alphabet.idxOf c) = Bytes.toNat bytes
  zeros : (text.toList.takeWhile (· == '1')).length = (bytes.takeWhile (· == 0)).length

theorem symbol_mem_all : ∀ d : Fin 58, symbol d ∈ alphabet ∧ alphabet.idxOf (symbol d) = d.val := by
  decide

theorem symbol_ne_one_all : ∀ d : Fin 58, symbol d = '1' → d.val = 0 := by
  decide

theorem spells_encode (bytes : Bytes) : Spells (encode bytes) bytes := by
  have hchars : (encode bytes).toList = (List.replicate (leadingZeros bytes) 0 ++
      Radix.digits 58 (Bytes.toNat bytes)).map symbol := by
    rw [encode, String.toList_ofList, encodeChars_eq_map]
  refine ⟨?_, ?_, ?_⟩
  · intro c hc
    rw [hchars] at hc
    obtain ⟨d, hd, rfl⟩ := List.mem_map.mp hc
    exact (symbol_mem_all ⟨d, lt_of_mem_zeros_append d hd⟩).1
  · have hdigits : (encode bytes).toList.map (fun c => alphabet.idxOf c) =
        List.replicate (leadingZeros bytes) 0 ++ Radix.digits 58 (Bytes.toNat bytes) := by
      rw [hchars]
      apply map_map_eq_self
      intro d hd
      exact (symbol_mem_all ⟨d, lt_of_mem_zeros_append d hd⟩).2
    rw [hdigits, Radix.value_replicate_append, Radix.value_digits (by decide)]
  · -- The first digit of the number is not zero, so its symbol is not one.
    have hhead : ∀ c rest, (Radix.digits 58 (Bytes.toNat bytes)).map symbol = c :: rest →
        c ≠ '1' := by
      intro c rest heq hone
      obtain ⟨d, ds, hdigits, rfl, -⟩ := List.map_eq_cons_iff.mp heq
      have hd : d < 58 := Radix.lt_of_mem_digits (by decide) (hdigits ▸ List.mem_cons_self)
      exact Radix.head_digits_ne_zero (by decide) hdigits (symbol_ne_one_all ⟨d, hd⟩ hone)
    rw [encode, String.toList_ofList, encodeChars, takeWhile_zeros_append hhead,
      List.length_replicate, leadingZeros]

/-- A number and a count of leading zeros belong to one byte string. -/
theorem eq_of_toNat_of_zeros {bytes others : Bytes}
    (hvalue : Bytes.toNat bytes = Bytes.toNat others)
    (hzeros : (bytes.takeWhile (· == 0)).length = (others.takeWhile (· == 0)).length) :
    bytes = others := by
  rw [eq_zeros_append 0 bytes, eq_zeros_append 0 others, ← digits_toNat, ← digits_toNat, hvalue,
    hzeros]

/-- **Base58 reads the bytes that a text spells**, and refuses a text that spells none. -/
theorem decode_eq_ok_iff_spells {text : String} {bytes : Bytes} :
    decode text = .ok bytes ↔ Spells text bytes := by
  constructor
  · intro hread
    rw [decode_eq_ok_iff.mp hread]
    exact spells_encode bytes
  · intro hspells
    have hread : decode text = .ok (ofDigits (text.toList.map fun c => (digit? c).getD 0)) := by
      -- Every character is a symbol, so the text is read as something.
      have hnone : firstBad text.toList = none := by
        rw [firstBad_eq_none_iff]
        intro c hc
        exact Option.ne_none_iff_exists'.mp (by simpa [digit?] using hspells.symbols c hc)
      rw [decode, decodeChars, hnone]
    -- What is read spells the text too, and a text spells one byte string.
    have hother := decode_eq_ok_iff.mp hread ▸ spells_encode _
    rw [hread, eq_of_toNat_of_zeros (hother.value.symm.trans hspells.value)
      (hother.zeros.symm.trans hspells.zeros)]

end Wallet.Base58
