import Wallet.Proofs.Numeral
import Wallet.Proofs.Outcome
import Wallet.Text.Base64

/-!
# Base64 reads what it writes

A byte string is written in groups of three bytes, of which the last may hold fewer and is then
padded. Reading goes through the same groups, so the proof of `decodeBytes_encodeBytes` is an
induction on the groups that carries along what has been read so far.

The other direction, `encode_of_decode`, is an induction on the groups of the reader. It holds
because padding must be complete and the bits that are left over must be zero.

Which bytes a text stands for can be said without the two programs: `Groups` compares numbers and
lengths, and `decode_eq_ok_iff_spells` says that reading does the same.
-/

namespace Wallet

/-! ## §1. ASCII text -/

theorem Bytes.ofText_ofList (cs : List Char) :
    Bytes.ofText (String.ofList cs) = cs.flatMap String.utf8EncodeChar := by
  simp [Bytes.ofText, List.utf8Encode, String.toUTF8]

theorem utf8EncodeChar_ascii_all :
    ∀ n : Fin 128, String.utf8EncodeChar (Char.ofNat n) = [UInt8.ofNat n] := by
  decide

/-- The bytes of a text of ASCII characters are those characters. -/
theorem Bytes.ofText_ascii {bytes : Bytes} (hascii : ∀ byte ∈ bytes, byte.toNat < 128) :
    Bytes.ofText (String.ofList (bytes.map fun byte => Char.ofNat byte.toNat)) = bytes := by
  rw [Bytes.ofText_ofList]
  induction bytes with
  | nil => rfl
  | cons byte rest ih =>
    -- A character below 128 takes one byte, which is its number.
    have hbyte := utf8EncodeChar_ascii_all ⟨byte.toNat, hascii byte (by simp)⟩
    rw [List.map_cons, List.flatMap_cons, hbyte,
      ih fun other hother => hascii other (List.mem_cons_of_mem _ hother)]
    simp

/-- A text is known from its bytes. -/
theorem Bytes.ofText_inj {s t : String} (heq : Bytes.ofText s = Bytes.ofText t) : s = t := by
  apply String.toByteArray_inj.mp
  apply ByteArray.ext
  exact Array.toList_inj.mp heq

namespace Base64

/-! ## §2. Symbols -/

theorem symbol_all :
    ∀ n : Fin 64, sextet? (symbol n) = some n.val ∧ symbol n ≠ padding ∧
      (symbol n).toNat < 128 := by
  decide

theorem sextet?_symbol {n : Nat} (hn : n < 64) : sextet? (symbol n) = some n :=
  (symbol_all ⟨n, hn⟩).1

theorem symbol_ne_padding {n : Nat} (hn : n < 64) : symbol n ≠ padding :=
  (symbol_all ⟨n, hn⟩).2.1

theorem symbol_lt {n : Nat} (hn : n < 64) : (symbol n).toNat < 128 :=
  (symbol_all ⟨n, hn⟩).2.2

@[simp] theorem readSymbol_symbol {n : Nat} (hn : n < 64) (offset : Nat) :
    readSymbol (symbol n) offset = .ok n := by
  simp [readSymbol, sextet?_symbol hn]

/-! ## §3. Sextets -/

/-- The sextets of a byte string and the padding behind them. They come in groups of four, the
bytes in groups of three, and the number that the sextets spell is that of the bytes, with two zero
bits for every sextet that is padding. -/
structure Groups (sextets : List Nat) (pads : Nat) (bytes : Bytes) : Prop where
  symbols : ∀ n ∈ sextets, n < 64
  pads_lt : pads < 3
  length : 4 * (bytes.length + pads) = 3 * (sextets.length + pads)
  value : Radix.value 64 sextets = Bytes.toNat bytes * 4 ^ pads

/-- As many bits on either side: three sextets of two bits weigh as much as a byte. -/
theorem Groups.weight {sextets : List Nat} {pads : Nat} {bytes : Bytes}
    (hgroups : Groups sextets pads bytes) :
    64 ^ sextets.length = 256 ^ bytes.length * 4 ^ pads := by
  have hlength := hgroups.length
  calc 64 ^ sextets.length
      _ = 4 ^ (3 * sextets.length) := by rw [Nat.pow_mul]
      _ = 4 ^ (4 * bytes.length + pads) := by congr 1; omega
      _ = 256 ^ bytes.length * 4 ^ pads := by rw [Nat.pow_add, Nat.pow_mul]

/-- Three bytes in front are four sextets in front. -/
theorem Groups.cons {sextets : List Nat} {pads : Nat} {rest : Bytes} (a b c : UInt8)
    (hgroups : Groups sextets pads rest) :
    let n := a.toNat * 65536 + b.toNat * 256 + c.toNat
    Groups ([n / 262144, n / 4096 % 64, n / 64 % 64, n % 64] ++ sextets) pads
      (a :: b :: c :: rest) := by
  intro n
  have ha := a.toNat_lt
  have hb := b.toNat_lt
  have hc := c.toNat_lt
  have hlength := hgroups.length
  refine ⟨?_, hgroups.pads_lt, ?_, ?_⟩
  · simp only [List.cons_append, List.nil_append, List.forall_mem_cons]
    exact ⟨by omega, by omega, by omega, by omega, hgroups.symbols⟩
  · simp only [List.length_append, List.length_cons, List.length_nil]
    omega
  · -- The four sextets spell the number of the three bytes.
    have hfour : Radix.value 64 [n / 262144, n / 4096 % 64, n / 64 % 64, n % 64] = n := by
      simp only [Radix.value, List.foldl_cons, List.foldl_nil]
      omega
    rw [Radix.value_append, hfour, hgroups.weight, hgroups.value, Bytes.toNat_cons,
      Bytes.toNat_cons, Bytes.toNat_cons]
    simp only [List.length_cons, n]
    ring

/-- What is written for a byte string. -/
theorem exists_groups (bytes : Bytes) :
    ∃ sextets pads, Groups sextets pads bytes ∧
      encodeBytes bytes = sextets.map symbol ++ List.replicate pads padding := by
  -- Along the groups of the writer; the last one is short of up to two bytes.
  induction bytes using encodeBytes.induct with
  | case1 a b c rest ih =>
    obtain ⟨sextets, pads, hgroups, hwritten⟩ := ih
    refine ⟨_, pads, hgroups.cons a b c, ?_⟩
    rw [encodeBytes, hwritten]
    rfl
  | case2 a b =>
    have ha := a.toNat_lt
    have hb := b.toNat_lt
    -- Sixteen bits are two bits short of three sextets.
    let n := a.toNat * 256 + b.toNat
    refine ⟨[n / 1024, n / 16 % 64, n % 16 * 4], 1, ⟨?_, by omega, rfl, ?_⟩, rfl⟩
    · simp only [List.forall_mem_cons]
      exact ⟨by omega, by omega, by omega, by simp⟩
    · simp only [Radix.value, Bytes.toNat, List.foldl_cons, List.foldl_nil]
      omega
  | case3 a =>
    have ha := a.toNat_lt
    -- Eight bits are four bits short of two.
    refine ⟨[a.toNat / 4, a.toNat % 4 * 16], 2, ⟨?_, by omega, rfl, ?_⟩, rfl⟩
    · simp only [List.forall_mem_cons]
      exact ⟨by omega, by omega, by simp⟩
    · simp only [Radix.value, Bytes.toNat, List.foldl_cons, List.foldl_nil]
      omega
  | case4 => exact ⟨[], 0, ⟨by simp, by omega, rfl, rfl⟩, rfl⟩

/-! ## §4. The last group -/

/-- A symbol in the last group is read as its six bits. -/
theorem readLast_symbol {n : Nat} (hn : n < 64) (start index : Nat) (sextets : List Nat)
    (rest : Bytes) :
    readLast start index sextets 0 (symbol n :: rest) =
      readLast start (index + 1) (n :: sextets) 0 rest := by
  rw [readLast, if_neg (symbol_ne_padding hn), if_neg (Nat.lt_irrefl 0), readSymbol_symbol hn]
  rfl

theorem readLast_padding {index : Nat} (hindex : 2 ≤ index) (start : Nat) (sextets : List Nat)
    (pads : Nat) (rest : Bytes) :
    readLast start index sextets pads (padding :: rest) =
      readLast start (index + 1) sextets (pads + 1) rest := by
  rw [readLast, if_pos rfl, if_neg (by omega)]

theorem closeLast_two {p q : Nat} (hq : q % 16 = 0) (start : Nat) (group : Bytes) :
    closeLast start group [q, p] 2 = .ok [UInt8.ofNat (p * 4 + q / 16)] := by
  simp [closeLast, hq]

theorem closeLast_three {p q r : Nat} (hr : r % 4 = 0) (start : Nat) (group : Bytes) :
    closeLast start group [r, q, p] 1 =
      .ok [UInt8.ofNat ((p * 1024 + q * 16 + r / 4) / 256),
        UInt8.ofNat (p * 1024 + q * 16 + r / 4)] := by
  simp [closeLast, hr]

/-- One byte: two symbols, of which the second has four bits to spare. -/
theorem decodeGroups_one (a : UInt8) (start : Nat) (done : Bytes) :
    decodeGroups start done (encodeBytes [a]) = .ok (done.reverse ++ [a]) := by
  have ha := a.toNat_lt
  -- The eight bits are split into six and two, and the two are moved up by four.
  have hbyte : a.toNat / 4 * 4 + a.toNat % 4 * 16 / 16 = a.toNat := by omega
  have hspare : a.toNat % 4 * 16 % 16 = 0 := by omega
  simp only [encodeBytes, decodeGroups]
  rw [readLast_symbol (by omega), readLast_symbol (by omega), readLast_padding (by omega),
    readLast_padding (by omega)]
  simp only [readLast, bind, Except.bind]
  rw [closeLast_two hspare, hbyte, UInt8.ofNat_toNat]

/-- Two bytes: three symbols, of which the third has two bits to spare. -/
theorem decodeGroups_two (a b : UInt8) (start : Nat) (done : Bytes) :
    decodeGroups start done (encodeBytes [a, b]) = .ok (done.reverse ++ [a, b]) := by
  have ha := a.toNat_lt
  have hb := b.toNat_lt
  -- The sixteen bits are split into six, six and four, and the four are moved up by two.
  have hsplit (n : Nat) : n / 1024 * 1024 + n / 16 % 64 * 16 + n % 16 * 4 / 4 = n := by omega
  have hspare (n : Nat) : n % 16 * 4 % 4 = 0 := by omega
  have hhigh : (a.toNat * 256 + b.toNat) / 256 = a.toNat := by omega
  have hlow : UInt8.ofNat (a.toNat * 256 + b.toNat) = b := by
    apply UInt8.toNat_inj.mp
    simp
  simp only [encodeBytes, decodeGroups]
  rw [readLast_symbol (by omega), readLast_symbol (by omega), readLast_symbol (by omega),
    readLast_padding (by omega)]
  simp only [readLast, bind, Except.bind]
  rw [closeLast_three (hspare _), hsplit, hhigh, hlow, UInt8.ofNat_toNat]

/-! ## §5. Whole groups -/

/-- The number that three bytes spell, split into four symbols and put together. -/
theorem sextets_eq (n : Nat) :
    n / 262144 * 262144 + n / 4096 % 64 * 4096 + n / 64 % 64 * 64 + n % 64 = n := by
  omega

theorem ofNat_three (a b c : UInt8) :
    let n := a.toNat * 65536 + b.toNat * 256 + c.toNat
    UInt8.ofNat (n / 65536) = a ∧ UInt8.ofNat (n / 256) = b ∧ UInt8.ofNat n = c := by
  have ha := a.toNat_lt
  have hb := b.toNat_lt
  have hc := c.toNat_lt
  refine ⟨?_, ?_, ?_⟩ <;> apply UInt8.toNat_inj.mp <;> simp <;> omega

theorem closeLast_four (p q r s start : Nat) (group : Bytes) :
    closeLast start group [s, r, q, p] 0 =
      let n := p * 262144 + q * 4096 + r * 64 + s
      .ok [UInt8.ofNat (n / 65536), UInt8.ofNat (n / 256), UInt8.ofNat n] := by
  simp [closeLast]

/-- Three bytes that come last leave nothing to spare. -/
theorem decodeGroups_three (a b c : UInt8) (start : Nat) (done : Bytes) :
    decodeGroups start done (encodeBytes [a, b, c]) = .ok (done.reverse ++ [a, b, c]) := by
  have ha := a.toNat_lt
  have hb := b.toNat_lt
  have hc := c.toNat_lt
  obtain ⟨hfirst, hsecond, hthird⟩ := ofNat_three a b c
  simp only [encodeBytes, decodeGroups]
  rw [readLast_symbol (by omega), readLast_symbol (by omega), readLast_symbol (by omega),
    readLast_symbol (by omega)]
  simp only [readLast, bind, Except.bind, closeLast_four]
  rw [sextets_eq, hfirst, hsecond, hthird]

/-- Four symbols in front of more text are read as their three bytes. -/
theorem decodeGroups_group (a b c : UInt8) (start : Nat) (done : Bytes) {text : Bytes}
    (htext : text ≠ []) :
    let n := a.toNat * 65536 + b.toNat * 256 + c.toNat
    decodeGroups start done
        (symbol (n / 262144) :: symbol (n / 4096 % 64) :: symbol (n / 64 % 64) ::
          symbol (n % 64) :: text) =
      decodeGroups (start + 4) (c :: b :: a :: done) text := by
  have ha := a.toNat_lt
  have hb := b.toNat_lt
  have hc := c.toNat_lt
  obtain ⟨hfirst, hsecond, hthird⟩ := ofNat_three a b c
  obtain ⟨e, rest, rfl⟩ := List.exists_cons_of_ne_nil htext
  intro n
  have hn : n < 16777216 := by omega
  rw [decodeGroups, readSymbol_symbol (by omega), readSymbol_symbol (by omega),
    readSymbol_symbol (by omega), readSymbol_symbol (by omega)]
  simp only [bind, Except.bind]
  rw [sextets_eq, hfirst, hsecond, hthird]

theorem encodeBytes_ne_nil {bytes : Bytes} (hbytes : bytes ≠ []) : encodeBytes bytes ≠ [] := by
  fun_cases encodeBytes bytes <;> simp_all

theorem decodeGroups_encodeBytes (bytes : Bytes) (start : Nat) (done : Bytes)
    (hbytes : bytes ≠ []) :
    decodeGroups start done (encodeBytes bytes) = .ok (done.reverse ++ bytes) := by
  -- Along the groups of the writer; a whole group is read as the last one if nothing follows it.
  induction bytes using encodeBytes.induct generalizing start done with
  | case1 a b c rest ih =>
    by_cases hrest : rest = []
    · subst hrest
      exact decodeGroups_three a b c start done
    · rw [encodeBytes, decodeGroups_group a b c start done (encodeBytes_ne_nil hrest),
        ih _ _ hrest]
      simp
  | case2 a b => exact decodeGroups_two a b start done
  | case3 a => exact decodeGroups_one a start done
  | case4 => exact absurd rfl hbytes

/-! ## §6. The round trip -/

/-- Written text comes in groups of four, so no byte is left over. -/
theorem length_encodeBytes_mod (bytes : Bytes) : (encodeBytes bytes).length % 4 = 0 := by
  obtain ⟨sextets, pads, hgroups, hwritten⟩ := exists_groups bytes
  have hlength := hgroups.length
  rw [hwritten, List.length_append, List.length_map, List.length_replicate]
  omega

/-- Nothing is written but symbols and padding. -/
theorem eq_symbol_of_mem_encodeBytes (bytes : Bytes) :
    ∀ byte ∈ encodeBytes bytes, byte = padding ∨ ∃ n < 64, symbol n = byte := by
  obtain ⟨sextets, pads, hgroups, hwritten⟩ := exists_groups bytes
  intro byte hbyte
  rw [hwritten] at hbyte
  rcases List.mem_append.mp hbyte with hsymbol | hpadding
  · obtain ⟨n, hn, rfl⟩ := List.mem_map.mp hsymbol
    exact .inr ⟨n, hgroups.symbols n hn, rfl⟩
  · exact .inl (List.eq_of_mem_replicate hpadding)

theorem encodeBytes_ascii (bytes : Bytes) : ∀ byte ∈ encodeBytes bytes, byte.toNat < 128 := by
  intro byte hbyte
  rcases eq_symbol_of_mem_encodeBytes bytes byte hbyte with rfl | ⟨n, hn, rfl⟩
  · decide
  · exact symbol_lt hn

theorem decodeBytes_encodeBytes (bytes : Bytes) :
    decodeBytes (encodeBytes bytes) = .ok bytes := by
  by_cases hbytes : bytes = []
  · subst hbytes
    rfl
  · -- A lone last byte would be looked at first, but there is none.
    have hstray : strayLast (encodeBytes bytes) = none := by
      have hlength := length_encodeBytes_mod bytes
      rw [strayLast]
      split <;> simp [hlength]
    rw [decodeBytes, if_neg (encodeBytes_ne_nil hbytes), hstray]
    exact decodeGroups_encodeBytes bytes 0 [] hbytes

/-- **Base64 loses nothing.** -/
@[simp] theorem decode_encode (bytes : Bytes) : decode (encode bytes) = .ok bytes := by
  rw [decode, encode, Bytes.ofText_ascii (encodeBytes_ascii bytes), decodeBytes_encodeBytes]

/-! ## §7. What was read is written again -/

/-- A byte that is read as a sextet is its symbol. -/
theorem symbol_of_readSymbol {byte : UInt8} {offset n : Nat}
    (hread : readSymbol byte offset = .ok n) : n < 64 ∧ symbol n = byte := by
  have hlength : alphabet.length = 64 := by decide
  unfold readSymbol at hread
  split at hread
  · next hsextet =>
    cases hread
    obtain ⟨hlt, hsymbol, -⟩ := List.findIdx?_eq_some_iff_getElem.mp hsextet
    refine ⟨hlength ▸ hlt, ?_⟩
    rw [symbol, List.getD_eq_getElem?_getD, List.getElem?_eq_getElem hlt]
    simpa using hsymbol
  · cases hread

/-- The last group is the symbols that were read and the padding behind them. -/
theorem readLast_eq_ok {start index pads total : Nat} {before sextets : List Nat} {group : Bytes}
    (hread : readLast start index before pads group = .ok (sextets, total)) :
    ∃ read count, (∀ n ∈ read, n < 64) ∧ (0 < pads → read = []) ∧
      group = read.map symbol ++ List.replicate count padding ∧
      sextets = read.reverse ++ before ∧ total = pads + count := by
  -- Symbols come first and padding behind them, so the last group is gone through once.
  induction group generalizing index pads before with
  | nil =>
    cases hread
    exact ⟨[], 0, by simp, fun _ => rfl, rfl, rfl, rfl⟩
  | cons byte rest ih =>
    rw [readLast] at hread
    split at hread
    · next hpadding =>
      split at hread
      · cases hread
      · -- Behind padding no symbol is read any more.
        obtain ⟨read, count, -, hnil, rfl, rfl, rfl⟩ := ih hread
        obtain rfl := hnil (Nat.succ_pos pads)
        refine ⟨[], count + 1, by simp, fun _ => rfl, ?_, rfl, by omega⟩
        rw [hpadding]
        rfl
    · split at hread
      · cases hread
      · next hpads =>
        obtain ⟨sextet, hsextet, hlast⟩ := bind_eq_ok.mp hread
        obtain ⟨hlt, rfl⟩ := symbol_of_readSymbol hsextet
        obtain ⟨read, count, hall, -, rfl, rfl, rfl⟩ := ih hlast
        refine ⟨sextet :: read, count, ?_, fun h => absurd h hpads, rfl, by simp, rfl⟩
        exact List.forall_mem_cons.mpr ⟨hlt, hall⟩

/-- Two symbols and their padding come from one byte. -/
theorem encodeBytes_two {p q : Nat} (hp : p < 64) (hq : q < 64) (hspare : q % 16 = 0) :
    encodeBytes [UInt8.ofNat (p * 4 + q / 16)] = [symbol p, symbol q, padding, padding] := by
  -- The four spare bits are zero, so nothing is lost with them.
  have hbyte : (UInt8.ofNat (p * 4 + q / 16)).toNat = p * 4 + q / 16 := by
    simp
    omega
  have hfirst : (p * 4 + q / 16) / 4 = p := by omega
  have hsecond : (p * 4 + q / 16) % 4 * 16 = q := by omega
  rw [encodeBytes, hbyte, hfirst, hsecond]

/-- Three symbols and their padding come from two bytes. -/
theorem encodeBytes_three {p q r : Nat} (hp : p < 64) (hq : q < 64) (hr : r < 64)
    (hspare : r % 4 = 0) :
    encodeBytes [UInt8.ofNat ((p * 1024 + q * 16 + r / 4) / 256),
        UInt8.ofNat (p * 1024 + q * 16 + r / 4)] =
      [symbol p, symbol q, symbol r, padding] := by
  have hnumber : (UInt8.ofNat ((p * 1024 + q * 16 + r / 4) / 256)).toNat * 256 +
      (UInt8.ofNat (p * 1024 + q * 16 + r / 4)).toNat = p * 1024 + q * 16 + r / 4 := by
    simp
    omega
  have hfirst : (p * 1024 + q * 16 + r / 4) / 1024 = p := by omega
  have hsecond : (p * 1024 + q * 16 + r / 4) / 16 % 64 = q := by omega
  have hthird : (p * 1024 + q * 16 + r / 4) % 16 * 4 = r := by omega
  simp only [encodeBytes]
  rw [hnumber, hfirst, hsecond, hthird]

/-- Four symbols come from three bytes, whatever follows. -/
theorem encodeBytes_four {p q r s : Nat} (hp : p < 64) (hq : q < 64) (hr : r < 64) (hs : s < 64)
    (rest : Bytes) :
    let n := p * 262144 + q * 4096 + r * 64 + s
    encodeBytes (UInt8.ofNat (n / 65536) :: UInt8.ofNat (n / 256) :: UInt8.ofNat n :: rest) =
      symbol p :: symbol q :: symbol r :: symbol s :: encodeBytes rest := by
  intro n
  have hnumber : (UInt8.ofNat (n / 65536)).toNat * 65536 + (UInt8.ofNat (n / 256)).toNat * 256 +
      (UInt8.ofNat n).toNat = n := by
    simp
    omega
  have hfirst : n / 262144 = p := by omega
  have hsecond : n / 4096 % 64 = q := by omega
  have hthird : n / 64 % 64 = r := by omega
  have hfourth : n % 64 = s := by omega
  simp only [encodeBytes]
  rw [hnumber, hfirst, hsecond, hthird, hfourth]

/-- The last group is written again from the bytes it was closed to. -/
theorem closeLast_eq_ok {start pads : Nat} {group bytes : Bytes} {read : List Nat}
    (hlt : ∀ n ∈ read, n < 64) (hlength : read.length + pads ≤ 4)
    (hclose : closeLast start group read.reverse pads = .ok bytes) :
    encodeBytes bytes = read.map symbol ++ List.replicate pads padding := by
  unfold closeLast at hclose
  split at hclose
  · cases hclose
  next hshort =>
  split at hclose
  · cases hclose
  next hpadded =>
  rw [List.length_reverse] at hshort hpadded
  -- There are two, three or four symbols, and the padding makes four of them.
  match read with
  | [p, q] =>
    obtain ⟨hp, hq, -⟩ : p < 64 ∧ q < 64 ∧ True := by simpa using hlt
    obtain rfl : pads = 2 := by simp only [List.length_cons, List.length_nil] at *; omega
    change (if q % 16 = 0 then _ else _) = _ at hclose
    split at hclose
    · next hspare =>
      cases hclose
      exact encodeBytes_two hp hq hspare
    · cases hclose
  | [p, q, r] =>
    obtain ⟨hp, hq, hr⟩ : p < 64 ∧ q < 64 ∧ r < 64 := by simpa using hlt
    obtain rfl : pads = 1 := by simp only [List.length_cons, List.length_nil] at *; omega
    change (if r % 4 = 0 then _ else _) = _ at hclose
    split at hclose
    · next hspare =>
      cases hclose
      exact encodeBytes_three hp hq hr hspare
    · cases hclose
  | [p, q, r, s] =>
    obtain ⟨hp, hq, hr, hs⟩ : p < 64 ∧ q < 64 ∧ r < 64 ∧ s < 64 := by simpa using hlt
    obtain rfl : pads = 0 := by simp only [List.length_cons, List.length_nil] at *; omega
    cases hclose
    exact encodeBytes_four hp hq hr hs []
  | [] => exact absurd Nat.zero_lt_two hshort
  | [p] => exact absurd Nat.one_lt_two hshort
  | p :: q :: r :: s :: t :: rest =>
    simp only [List.length_cons] at hlength
    omega

/-- Groups that were read are written again from their bytes. -/
theorem encodeBytes_of_decodeGroups {start : Nat} {done group bytes : Bytes}
    (hread : decodeGroups start done group = .ok bytes) :
    ∃ tail, bytes = done.reverse ++ tail ∧ encodeBytes tail = group := by
  -- Along the groups of the reader; the last one holds at most four bytes of text.
  fun_induction decodeGroups start done group with
  | case1 start done a b c d e rest ih =>
    simp only [bind_eq_ok] at hread
    obtain ⟨p, hp, q, hq, r, hr, s, hs, hread⟩ := hread
    obtain ⟨hplt, rfl⟩ := symbol_of_readSymbol hp
    obtain ⟨hqlt, rfl⟩ := symbol_of_readSymbol hq
    obtain ⟨hrlt, rfl⟩ := symbol_of_readSymbol hr
    obtain ⟨hslt, rfl⟩ := symbol_of_readSymbol hs
    obtain ⟨tail, rfl, htail⟩ := ih p q r s hread
    rw [List.reverse_cons, List.reverse_cons, List.reverse_cons, List.append_assoc,
      List.append_assoc, List.append_assoc]
    refine ⟨_, rfl, ?_⟩
    rw [← htail]
    exact encodeBytes_four hplt hqlt hrlt hslt tail
  | case2 start done group hshort =>
    have hlength : group.length ≤ 4 := by
      match group with
      | a :: b :: c :: d :: e :: rest => exact absurd rfl (hshort a b c d e rest)
      | [] | [_] | [_, _] | [_, _, _] | [_, _, _, _] => simp
    simp only [bind_eq_ok] at hread
    obtain ⟨⟨sextets, pads⟩, hlast, tail, hclose, hbytes⟩ := hread
    obtain ⟨read, count, hlt, -, rfl, rfl, rfl⟩ := readLast_eq_ok hlast
    cases hbytes
    refine ⟨tail, rfl, ?_⟩
    rw [List.append_nil, Nat.zero_add] at hclose
    exact closeLast_eq_ok hlt (by simpa using hlength) hclose

/-- **Base64 is canonical**: a text that is accepted is the one that its bytes are written as. -/
theorem encode_of_decode {text : String} {bytes : Bytes} (hread : decode text = .ok bytes) :
    encode bytes = text := by
  have hbytes : encodeBytes bytes = Bytes.ofText text := by
    rw [decode, decodeBytes] at hread
    split at hread
    · next hempty =>
      cases hread
      rw [hempty]
      rfl
    · split at hread
      · cases hread
      · obtain ⟨tail, rfl, htail⟩ := encodeBytes_of_decodeGroups hread
        exact htail
  apply Bytes.ofText_inj
  rw [encode, Bytes.ofText_ascii (encodeBytes_ascii bytes), hbytes]

theorem decode_eq_ok_iff {text : String} {bytes : Bytes} :
    decode text = .ok bytes ↔ text = encode bytes := by
  constructor
  · intro hread
    exact (encode_of_decode hread).symm
  · rintro rfl
    exact decode_encode bytes

/-! ## §8. What a text spells -/

/-- The text consists of the symbols of sextets of the bytes and of the padding behind them. -/
def Spells (text : String) (bytes : Bytes) : Prop :=
  ∃ sextets pads, Groups sextets pads bytes ∧
    Bytes.ofText text = sextets.map symbol ++ List.replicate pads padding

theorem spells_encode (bytes : Bytes) : Spells (encode bytes) bytes := by
  rw [Spells, encode, Bytes.ofText_ascii (encodeBytes_ascii bytes)]
  exact exists_groups bytes

/-- A byte string has one list of sextets. -/
theorem Groups.unique {sextets others : List Nat} {pads count : Nat} {bytes : Bytes}
    (hgroups : Groups sextets pads bytes) (hothers : Groups others count bytes) :
    sextets = others ∧ pads = count := by
  have hpads := hgroups.pads_lt
  have hcount := hothers.pads_lt
  have hlength := hgroups.length
  have hlengths := hothers.length
  -- Padding makes the bytes up to a multiple of three, so its length is settled by theirs.
  obtain rfl : pads = count := by omega
  refine ⟨?_, rfl⟩
  refine Radix.value_inj (by decide) (by omega) hgroups.symbols hothers.symbols ?_
  rw [hgroups.value, hothers.value]

/-- **Base64 reads the bytes that a text spells**, and refuses a text that spells none. -/
theorem decode_eq_ok_iff_spells {text : String} {bytes : Bytes} :
    decode text = .ok bytes ↔ Spells text bytes := by
  rw [decode_eq_ok_iff]
  constructor
  · rintro rfl
    exact spells_encode bytes
  · rintro ⟨sextets, pads, hgroups, htext⟩
    -- The written text spells them too, and with the same sextets.
    obtain ⟨others, count, hothers, hwritten⟩ := spells_encode bytes
    obtain ⟨rfl, rfl⟩ := hgroups.unique hothers
    exact Bytes.ofText_inj (htext.trans hwritten.symm)

end Base64

end Wallet
