import Mathlib.Data.Nat.Digits.Lemmas
import Wallet.Radix

/-!
# Numerals

The library writes numerals most significant digit first. `digits_eq` and `value_eq` say that they
are the reversed digit lists of Mathlib, so that what is known there carries over: a number is
recovered from its digits (`value_digits`), and digits without a leading zero are recovered from
their number (`digits_value`). A run along the digits of a number is followed by `foldl_digits`.

The second half does the same for bytes. A byte string of any length is a numeral in base 256
that may start with zeros, and `bigEndian` is the one of a given length.
-/

namespace Wallet

/-- A list is recovered if each of its members is. -/
theorem map_map_eq_self {α β : Type} {f : α → β} {g : β → α} {list : List α}
    (hback : ∀ a ∈ list, g (f a) = a) : (list.map f).map g = list := by
  rw [List.map_map]
  conv => rhs; rw [← List.map_id list]
  exact List.map_congr_left hback

/-! ## §1. Digits -/

namespace Radix

theorem digitsOnto_eq {base : Nat} (hbase : 1 < base) (count n : Nat) (tail : List Nat)
    (hn : n < base ^ count) :
    digitsOnto base count n tail = (Nat.digits base n).reverse ++ tail := by
  -- Each digit that is written divides what is left of the number, and uses up one of the count.
  induction count generalizing n tail with
  | zero =>
    have hzero : n = 0 := by simpa using hn
    subst hzero
    simp [digitsOnto]
  | succ count ih =>
    by_cases hzero : n = 0
    · subst hzero
      simp [digitsOnto]
    · have hdiv : n / base < base ^ count := by
        rw [Nat.div_lt_iff_lt_mul (by omega), ← Nat.pow_succ]
        exact hn
      rw [Nat.digits_def' hbase (by omega), digitsOnto, if_neg hzero, ih _ _ hdiv]
      simp

/-- The digits are those of Mathlib, most significant first. A number has no more digits than
bits, so the count that bounds the recursion is never reached. -/
theorem digits_eq {base : Nat} (hbase : 1 < base) (n : Nat) :
    digits base n = (Nat.digits base n).reverse := by
  have hbits : n < base ^ (n.log2 + 1) :=
    calc n < 2 ^ (n.log2 + 1) := Nat.lt_log2_self
      _ ≤ base ^ (n.log2 + 1) := Nat.pow_le_pow_left hbase _
  simp [digits, digitsOnto_eq hbase _ _ _ hbits]

theorem foldl_eq_ofDigits (base : Nat) (ds : List Nat) (start : Nat) :
    ds.foldl (fun n d => n * base + d) start =
      Nat.ofDigits base ds.reverse + start * base ^ ds.length := by
  -- What was read before a digit weighs `base` times as much after it.
  induction ds generalizing start with
  | nil => simp
  | cons d ds ih =>
    rw [List.foldl_cons, ih, List.reverse_cons, Nat.ofDigits_append, Nat.ofDigits_singleton,
      List.length_reverse, List.length_cons]
    ring

theorem value_eq (base : Nat) (ds : List Nat) :
    value base ds = Nat.ofDigits base ds.reverse := by
  simp [value, foldl_eq_ofDigits]

theorem value_digits {base : Nat} (hbase : 1 < base) (n : Nat) :
    value base (digits base n) = n := by
  rw [value_eq, digits_eq hbase, List.reverse_reverse, Nat.ofDigits_digits]

theorem lt_of_mem_digits {base : Nat} (hbase : 1 < base) {n d : Nat}
    (hd : d ∈ digits base n) : d < base := by
  rw [digits_eq hbase, List.mem_reverse] at hd
  exact Nat.digits_lt_base hbase hd

/-- Digits are written without leading zeros. -/
theorem head_digits_ne_zero {base : Nat} (hbase : 1 < base) {n d : Nat} {ds : List Nat}
    (hdigits : digits base n = d :: ds) : d ≠ 0 := by
  rw [digits_eq hbase] at hdigits
  -- The first digit is the last of Mathlib's, which is never zero.
  have hmath : Nat.digits base n = ds.reverse ++ [d] := by
    rw [← List.reverse_reverse (Nat.digits base n), hdigits, List.reverse_cons]
  have hn : n ≠ 0 := by
    rintro rfl
    simp at hmath
  have hlast := Nat.getLast_digit_ne_zero base hn
  simpa [hmath] using hlast

/-- Digits without a leading zero are those of their number. -/
theorem digits_value {base : Nat} (hbase : 1 < base) {ds : List Nat}
    (hlt : ∀ d ∈ ds, d < base) (hhead : ∀ d rest, ds = d :: rest → d ≠ 0) :
    digits base (value base ds) = ds := by
  rw [digits_eq hbase, value_eq, Nat.digits_ofDigits base hbase, List.reverse_reverse]
  · intro d hd
    exact hlt d (List.mem_reverse.mp hd)
  · intro hne
    cases ds with
    | nil => simp at hne
    | cons d rest => simpa using hhead d rest rfl

/-- A run along digits. If a step takes a state that stands for `n` to one that stands for `n` with
one more digit, then the run reads the digits. -/
theorem foldl_of_step {α : Type} {base : Nat} {step : α → Nat → α} {Stands : α → Nat → Prop}
    (hstep : ∀ state n d, d < base → Stands state n → Stands (step state d) (n * base + d))
    {ds : List Nat} (hlt : ∀ d ∈ ds, d < base) {state : α} {n : Nat} (hstands : Stands state n) :
    Stands (ds.foldl step state) (ds.foldl (fun n d => n * base + d) n) := by
  -- The step carries `Stands` from digit to digit.
  induction ds generalizing state n with
  | nil => exact hstands
  | cons d ds ih =>
    have hd : d < base := hlt d List.mem_cons_self
    have hrest : ∀ e ∈ ds, e < base := fun e he => hlt e (List.mem_cons_of_mem d he)
    exact ih hrest (hstep state n d hd hstands)

/-- A run along the digits of a number reads the number. -/
theorem foldl_digits {α : Type} {base : Nat} (hbase : 1 < base) {step : α → Nat → α}
    (Stands : α → Nat → Prop) {start : α} (hstart : Stands start 0)
    (hstep : ∀ state n d, d < base → Stands state n → Stands (step state d) (n * base + d))
    (k : Nat) : Stands ((digits base k).foldl step start) k := by
  have hvalue : (digits base k).foldl (fun n d => n * base + d) 0 = k := value_digits hbase k
  have hlt : ∀ d ∈ digits base k, d < base := fun d hd => lt_of_mem_digits hbase hd
  have hread := foldl_of_step hstep hlt hstart
  rwa [hvalue] at hread

/-- Digits weigh as much as there are digits behind them. -/
theorem value_append (base : Nat) (front back : List Nat) :
    value base (front ++ back) = value base front * base ^ back.length + value base back := by
  rw [value, List.foldl_append, foldl_eq_ofDigits, ← value_eq, Nat.add_comm]
  rfl

/-- As many digits with the same number are the same digits. -/
theorem value_inj {base : Nat} (hbase : 1 < base) {ds es : List Nat}
    (hlength : ds.length = es.length) (hds : ∀ d ∈ ds, d < base) (hes : ∀ e ∈ es, e < base)
    (heq : value base ds = value base es) : ds = es := by
  rw [value_eq, value_eq] at heq
  apply List.reverse_injective
  apply Nat.ofDigits_inj_of_len_eq hbase (by simpa using hlength) _ _ heq
  · exact fun d hd => hds d (List.mem_reverse.mp hd)
  · exact fun e he => hes e (List.mem_reverse.mp he)

/-- Leading zeros do not count. -/
theorem value_replicate_append (base count : Nat) (ds : List Nat) :
    value base (List.replicate count 0 ++ ds) = value base ds := by
  rw [value_eq, value_eq, List.reverse_append, List.reverse_replicate,
    Nat.ofDigits_append_replicate_zero]

end Radix

/-! ## §2. Bytes -/

/-- Every byte is the number of a character. -/
theorem toNat_ofNat_byte (byte : UInt8) : (Char.ofNat byte.toNat).toNat = byte.toNat := by
  -- A byte is below the numbers that are no characters.
  have hbyte := byte.toNat_lt
  have hvalid : byte.toNat.isValidChar := Or.inl (by omega)
  rw [Char.ofNat, dif_pos hvalid]
  rfl

/-- A byte string is a numeral in base 256. -/
theorem Bytes.toNat_eq_value (bytes : Bytes) :
    Bytes.toNat bytes = Radix.value 256 (bytes.map UInt8.toNat) := by
  simp [Bytes.toNat, Radix.value, List.foldl_map]

theorem Bytes.toNat_cons (byte : UInt8) (bytes : Bytes) :
    Bytes.toNat (byte :: bytes) = byte.toNat * 256 ^ bytes.length + Bytes.toNat bytes := by
  have happend := Radix.value_append 256 [byte.toNat] (bytes.map UInt8.toNat)
  rw [List.length_map] at happend
  rw [Bytes.toNat_eq_value, Bytes.toNat_eq_value, List.map_cons, ← List.singleton_append, happend]
  simp [Radix.value]

theorem foldl_bigEndian (width value start : Nat) :
    (bigEndian width value).foldl (fun n byte => n * 256 + byte.toNat) start =
      start * 256 ^ width + value % 256 ^ width := by
  -- The first byte is the digit above the `width` lower ones, whatever stands above it.
  induction width generalizing start with
  | zero => simp [bigEndian, Nat.mod_one]
  | succ width ih =>
    have hsplit : value % 256 ^ (width + 1) =
        value / 256 ^ width % 256 * 256 ^ width + value % 256 ^ width := by
      rw [Nat.pow_succ, Nat.mod_mul, Nat.add_comm, Nat.mul_comm]
    rw [bigEndian, List.foldl_cons, ih, hsplit]
    simp only [UInt8.toNat_ofNat', Nat.pow_eq, Nat.reducePow]
    ring

theorem toNat_bigEndian {width value : Nat} (hvalue : value < 256 ^ width) :
    Bytes.toNat (bigEndian width value) = value := by
  rw [Bytes.toNat, foldl_bigEndian, Nat.mod_eq_of_lt hvalue]
  simp

theorem bigEndian_inj {width m n : Nat} (hm : m < 256 ^ width) (hn : n < 256 ^ width)
    (heq : bigEndian width m = bigEndian width n) : m = n := by
  rw [← toNat_bigEndian hm, heq, toNat_bigEndian hn]

theorem Bytes.toNat_lt (bytes : Bytes) : Bytes.toNat bytes < 256 ^ bytes.length := by
  have hdigits : ∀ d ∈ (bytes.map UInt8.toNat).reverse, d < 256 := by
    intro d hd
    obtain ⟨byte, -, rfl⟩ := List.mem_map.mp (List.mem_reverse.mp hd)
    exact byte.toNat_lt
  have hlt := Nat.ofDigits_lt_base_pow_length (by decide) hdigits
  rwa [List.length_reverse, List.length_map, ← Radix.value_eq, ← Bytes.toNat_eq_value] at hlt

theorem Bytes.toNatLittle_littleEndian {width value : Nat} (hvalue : value < 256 ^ width) :
    Bytes.toNatLittle (littleEndian width value) = value := by
  -- The first byte is the lowest digit.
  induction width generalizing value with
  | zero =>
    have hzero : value = 0 := by simpa using hvalue
    subst hzero
    rfl
  | succ width ih =>
    have hrest : value / 256 < 256 ^ width := by
      rw [Nat.div_lt_iff_lt_mul (by decide), ← Nat.pow_succ]
      exact hvalue
    have hbyte : (UInt8.ofNat value).toNat = value % 256 := by simp
    rw [littleEndian, Bytes.toNatLittle, List.reverse_cons, Bytes.toNat, List.foldl_append]
    change Bytes.toNatLittle (littleEndian width (value / 256)) * 256 +
      (UInt8.ofNat value).toNat = value
    rw [ih hrest, hbyte]
    omega

/-- The upper digits of a number are the digits of a quotient. -/
theorem bigEndian_add (upper lower value : Nat) :
    bigEndian (upper + lower) value =
      bigEndian upper (value / 256 ^ lower) ++ bigEndian lower value := by
  -- The lower digits are the same, however many stand above them.
  induction upper with
  | zero => simp [bigEndian]
  | succ upper ih =>
    rw [Nat.succ_add, bigEndian, ih, bigEndian, List.cons_append, Nat.pow_eq, Nat.pow_eq,
      Nat.div_div_eq_div_mul, ← Nat.pow_add, Nat.add_comm lower]

end Wallet
