import Mathlib.Data.List.Forall2
import Mathlib.Tactic.IntervalCases
import Wallet.Json.Parser
import Wallet.Json.Printer
import Wallet.Proofs.Json.Fields

/-!
# What is written is read

`Reads d v cs` says that the text `cs` is read as the value `v` wherever it stands, provided that
`d` levels of brackets may still be opened. One lemma for each kind of value says which texts
have this property; brackets may have blanks inside of them, so both ways to write a value are
covered (`parse_compact`, `parse_pretty`).

A text has room for fewer values than there are: floating point numbers are written in few
digits, and brackets can be read to a limited depth. `Plain` are the values that come through:
their numbers are integers of 64 bits, and their objects have their names in order.
-/

namespace Wallet.Json

/-! ## §1. Blanks -/

/-- Nothing but blanks. -/
def Blank (cs : List Char) : Prop :=
  ∀ c ∈ cs, isBlank c = true

theorem skip_blank_append {gap : List Char} (hgap : Blank gap) (cs : List Char) :
    skip (gap ++ cs) = skip cs :=
  List.dropWhile_append_of_pos hgap

theorem skip_cons {c : Char} (hc : isBlank c = false) (cs : List Char) :
    skip (c :: cs) = c :: cs := by
  simp [skip, hc]

/-- A text that does not go on a number in front of it. -/
def Closes (rest : List Char) : Prop :=
  ∀ c tail, rest = c :: tail → c.isDigit = false ∧ c ≠ '.' ∧ c ≠ 'e' ∧ c ≠ 'E'

theorem closes_nil : Closes [] := by
  intro c tail h
  cases h

theorem closes_cons {c : Char} (hc : c.isDigit = false ∧ c ≠ '.' ∧ c ≠ 'e' ∧ c ≠ 'E')
    (tail : List Char) : Closes (c :: tail) := by
  rintro _ _ ⟨⟩
  exact hc

theorem closes_of_blank {c : Char} (hc : isBlank c = true) :
    c.isDigit = false ∧ c ≠ '.' ∧ c ≠ 'e' ∧ c ≠ 'E' := by
  simp only [isBlank, Bool.or_eq_true, decide_eq_true_eq, or_assoc] at hc
  rcases hc with rfl | rfl | rfl | rfl <;> decide

theorem closes_blank_append {gap rest : List Char} (hgap : Blank gap) (hrest : Closes rest) :
    Closes (gap ++ rest) := by
  cases gap with
  | nil => exact hrest
  | cons c tail => exact closes_cons (closes_of_blank (hgap c (by simp))) _

/-! ## §2. Numbers -/

/-- The value of a digit. -/
def digitValue (c : Char) : Nat :=
  c.toNat - '0'.toNat

/-- The digits of a number are taken up to where the number ends. -/
theorem takeDigits_toDigits (n : Nat) {rest : List Char} (hrest : Closes rest) :
    takeDigits (Nat.toDigits 10 n ++ rest) = ((Nat.toDigits 10 n).map digitValue, rest) := by
  have hdigits : ∀ c ∈ Nat.toDigits 10 n, c.isDigit = true := fun c hc =>
    Nat.isDigit_of_mem_toDigits (by decide) (by decide) hc
  rw [takeDigits, List.takeWhile_append_of_pos hdigits, List.dropWhile_append_of_pos hdigits]
  cases rest with
  | nil => simp [digitValue]
  | cons c tail => simp [(hrest c tail rfl).1, digitValue]

/-- The digits of a number add up to it. -/
theorem foldl_digitValue (n : Nat) :
    ((Nat.toDigits 10 n).map digitValue).foldl (fun n d => n * 10 + d) 0 = n := by
  have hvalue := @Nat.ofDigitChars_ten_toDigits n
  rw [Nat.ofDigitChars_eq_foldl] at hvalue
  rw [List.foldl_map]
  simpa [Nat.mul_comm, digitValue] using hvalue

/-- Digits behind a number do not make it smaller. -/
theorem le_foldl (ds : List Nat) (start : Nat) :
    start ≤ ds.foldl (fun n d => n * 10 + d) start := by
  induction ds generalizing start with
  | nil => exact Nat.le_refl _
  | cons d ds ih => exact Nat.le_trans (by omega) (ih (start * 10 + d))

/-- All digits of a number that fits are taken. -/
theorem accumulate_eq {ds : List Nat} {start : Nat} (taken : Nat)
    (hfits : ds.foldl (fun n d => n * 10 + d) start < UInt64.size) :
    accumulate start taken ds =
      (ds.foldl (fun n d => n * 10 + d) start, taken + ds.length, 0) := by
  induction ds generalizing start taken with
  | nil => rfl
  | cons d ds ih =>
    rw [List.foldl_cons] at hfits
    -- What is read so far is no more than the whole, so it fits as well.
    have hstep := Nat.lt_of_le_of_lt (le_foldl ds _) hfits
    rw [accumulate, if_pos hstep, ih _ hfits, List.foldl_cons, List.length_cons]
    congr 2
    omega

theorem head_toDigits {n : Nat} (hn : 0 < n) :
    ∃ c cs, Nat.toDigits 10 n = c :: cs ∧ digitValue c ≠ 0 := by
  -- All digits but the last are those of a tenth of the number.
  induction n using Nat.strongRecOn with
  | ind n ih =>
    rw [Nat.toDigits_eq_if (by decide)]
    split
    · next hlt =>
      refine ⟨_, [], rfl, ?_⟩
      rw [digitValue, show '0'.toNat = 48 from rfl, Nat.toNat_digitChar_sub_48_of_lt_ten hlt]
      omega
    · obtain ⟨c, cs, hcs, hc⟩ := ih (n / 10) (by omega) (by omega)
      exact ⟨c, cs ++ [(n % 10).digitChar], by rw [hcs, List.cons_append], hc⟩

/-- The digits of a number never start with a zero in front of others. -/
theorem digits_ne_zero_cons (n : Nat) {d : Nat} {ds : List Nat} :
    (Nat.toDigits 10 n).map digitValue ≠ 0 :: d :: ds := by
  intro heq
  by_cases hn : 0 < n
  · obtain ⟨c, cs, hcs, hc⟩ := head_toDigits hn
    rw [hcs] at heq
    exact hc (List.cons.inj heq).1
  · obtain rfl : n = 0 := by omega
    cases heq

/-- A numeral without point and exponent is read as an integer if its sign allows it. -/
theorem parseUnsigned_toDigits (negative : Bool) {n : Nat} (hn : n < UInt64.size)
    {rest : List Char} (hrest : Closes rest) :
    parseUnsigned negative (Nat.toDigits 10 n ++ rest) =
      if !negative then .ok (.integer n, rest)
      else if 0 < n ∧ n ≤ Nat.pow 2 63 then .ok (.integer (-n), rest)
      else closeFloat true n 0 rest := by
  have hclosed : continuesNumber rest = false := by
    cases rest with
    | nil => rfl
    | cons c tail =>
      obtain ⟨-, hpoint, hlower, hupper⟩ := hrest c tail rfl
      simp [continuesNumber, hpoint, hlower, hupper]
  have hfold := foldl_digitValue n
  have hne : (Nat.toDigits 10 n).map digitValue ≠ [] := by simp
  have hzero := @digits_ne_zero_cons n
  rw [parseUnsigned, takeDigits_toDigits n hrest]
  generalize (Nat.toDigits 10 n).map digitValue = ds at *
  -- Texts without a digit, and texts with a zero in front of other digits, are refused. A numeral
  -- is neither.
  split
  · next heq => cases heq; exact absurd rfl hne
  · next heq => cases heq; exact absurd rfl hne
  · next heq => cases heq; exact absurd rfl hzero
  · next heq =>
    cases heq
    simp only [accumulate_eq 0 (hfold ▸ hn), hfold, hclosed]
    simp

/-- The integers that a text can hold. -/
def Is64 (i : Int) : Prop :=
  -2 ^ 63 ≤ i ∧ i < 2 ^ 64

/-- An integer is written as its digits, behind a sign if it is negative. -/
theorem chars_integer (i : Int) :
    (Number.integer i).chars =
      if 0 ≤ i then Nat.toDigits 10 i.toNat else '-' :: Nat.toDigits 10 (-i).toNat := by
  rw [Number.chars, Int.toString_eq_repr, Int.repr_eq_if]
  split
  · simp [Nat.repr_eq_ofList_toDigits]
  · simp [Nat.repr_eq_ofList_toDigits]

/-- Digits have no sign in front of them. -/
theorem parseNumber_toDigits (n : Nat) (rest : List Char) :
    parseNumber (Nat.toDigits 10 n ++ rest) = parseUnsigned false (Nat.toDigits 10 n ++ rest) := by
  obtain ⟨c, cs, hcs⟩ := List.exists_cons_of_ne_nil (Nat.toDigits_ne_nil (n := n) (b := 10))
  have hdigit : c.isDigit = true :=
    Nat.isDigit_of_mem_toDigits (by decide) (by decide) (hcs ▸ List.mem_cons_self)
  have hminus : c ≠ '-' := by
    rintro rfl
    exact absurd hdigit (by decide)
  rw [hcs, List.cons_append, parseNumber]
  intro tail heq
  exact hminus (List.cons.inj heq).1

/-- **An integer of 64 bits is read back from its numeral.** -/
theorem parseNumber_chars {i : Int} (hi : Is64 i) {rest : List Char} (hrest : Closes rest) :
    parseNumber ((Number.integer i).chars ++ rest) = .ok (.integer i, rest) := by
  obtain ⟨hlow, hhigh⟩ := hi
  rw [chars_integer]
  by_cases hsign : 0 ≤ i
  · have hfits : i.toNat < UInt64.size := by simp [UInt64.size]; omega
    rw [if_pos hsign, parseNumber_toDigits, parseUnsigned_toDigits false hfits hrest]
    simp [Int.toNat_of_nonneg hsign]
  · have hfits : (-i).toNat < UInt64.size := by simp [UInt64.size]; omega
    have hbound : Nat.pow 2 63 = 9223372036854775808 := rfl
    have hrange : 0 < (-i).toNat ∧ (-i).toNat ≤ Nat.pow 2 63 := by omega
    have hback : -((-i).toNat : Int) = i := by omega
    rw [if_neg hsign, List.cons_append, parseNumber, parseUnsigned_toDigits true hfits hrest,
      if_pos hrange, hback]
    rfl

/-! ## §3. Strings -/

/-- An escape stands for its character. -/
theorem escape_eq (c : Char) :
    (escape c = [c] ∧ c ≠ '"' ∧ c ≠ '\\' ∧ ¬ c.toNat < 32) ∨
      ∃ tail, escape c = '\\' :: tail ∧ ∀ rest, parseEscape (tail ++ rest) = .ok (c, rest) := by
  by_cases hcontrol : c.toNat < 32
  · right
    have hc : c = Char.ofNat c.toNat := (Char.ofNat_toNat c).symm
    generalize c.toNat = n at *
    subst hc
    -- There are 32 control characters, each with an escape of its own.
    interval_cases n <;> exact ⟨_, rfl, fun _ => rfl⟩
  · by_cases hquote : c = '"'
    · subst hquote
      exact .inr ⟨_, rfl, fun _ => rfl⟩
    · by_cases hslash : c = '\\'
      · subst hslash
        exact .inr ⟨_, rfl, fun _ => rfl⟩
      · left
        refine ⟨?_, hquote, hslash, hcontrol⟩
        -- No branch is left but the last one, which keeps the character.
        unfold escape
        split
        · exact absurd rfl hquote
        · exact absurd rfl hslash
        · exact absurd (by decide) hcontrol
        · exact absurd (by decide) hcontrol
        · exact absurd (by decide) hcontrol
        · rw [if_neg (by omega), if_neg (by omega), if_neg hcontrol]

/-- A string is read up to its closing quote, one step for each of its characters. -/
theorem parseString_escape (cs : List Char) {fuel : Nat} (hfuel : cs.length < fuel)
    (done rest : List Char) :
    parseString fuel done (cs.flatMap escape ++ '"' :: rest) =
      .ok (String.ofList (done.reverse ++ cs), rest) := by
  induction cs generalizing fuel done with
  | nil =>
    obtain ⟨fuel, rfl⟩ := Nat.exists_eq_succ_of_ne_zero (Nat.ne_zero_of_lt hfuel)
    rw [List.flatMap_nil, List.nil_append, List.append_nil]
    exact parseString_close done
  | cons c cs ih =>
    obtain ⟨fuel, rfl⟩ := Nat.exists_eq_succ_of_ne_zero (Nat.ne_zero_of_lt hfuel)
    have hnext := ih (Nat.lt_of_succ_lt_succ hfuel) (c :: done)
    rw [List.reverse_cons, List.append_assoc, List.singleton_append] at hnext
    rw [List.flatMap_cons, List.append_assoc]
    -- A character stands for itself or takes an escape, and is one step either way.
    rcases escape_eq c with ⟨hself, hquote, hslash, hcontrol⟩ | ⟨tail, hescape, hparse⟩
    · rw [hself, List.singleton_append, parseString_keep hquote hslash hcontrol]
      exact hnext
    · rw [hescape, List.cons_append, parseString_unescape (hparse _)]
      exact hnext

/-- Every character leaves something in the text. -/
theorem length_escape_pos (c : Char) : 0 < (escape c).length := by
  rcases escape_eq c with ⟨hself, -⟩ | ⟨tail, hescape, -⟩
  · simp [hself]
  · simp [hescape]

/-- A string has no more characters than its text, which has two quotes besides. -/
theorem length_lt_quote (s : String) : s.toList.length + 2 ≤ (quote s).length := by
  have hlength : ∀ cs : List Char, cs.length ≤ (cs.flatMap escape).length := by
    intro cs
    induction cs with
    | nil => exact Nat.le_refl _
    | cons c cs ih =>
      have hpos := length_escape_pos c
      simp only [List.flatMap_cons, List.length_append, List.length_cons]
      omega
  have := hlength s.toList
  simp only [quote, List.length_cons, List.length_append, List.length_nil]
  omega

/-- A string is read back from what stands between its quotes. -/
theorem parseString_quote (s : String) (fuel : Nat) (hfuel : s.toList.length < fuel)
    (rest : List Char) :
    parseString fuel [] (s.toList.flatMap escape ++ '"' :: rest) = .ok (s, rest) := by
  rw [parseString_escape _ hfuel, List.reverse_nil, List.nil_append, String.ofList_toList]

/-! ## §4. Values -/

/-- The text `cs` is read as the value `v` if `depth` levels of brackets may be opened, whatever
follows, and one step for each character is enough. -/
structure Reads (depth : Nat) (v : Json) (cs : List Char) : Prop where
  starts : ∃ c tail, cs = c :: tail ∧ isBlank c = false ∧ c ≠ ']' ∧ c ≠ '\x7d'
  parse : ∀ fuel levels rest, cs.length ≤ fuel → depth ≤ levels → Closes rest →
    parseValue fuel levels (cs ++ rest) = .ok (v, rest)

/-- Blanks in front of a value do not matter. -/
theorem parseValue_blank_append (fuel levels : Nat) {gap : List Char} (hgap : Blank gap)
    (cs : List Char) : parseValue fuel levels (gap ++ cs) = parseValue fuel levels cs :=
  parseValue_congr (skip_blank_append hgap cs)

/-- The first character of a value takes one step. -/
theorem reads_cons {depth : Nat} {v : Json} {c : Char} {tail : List Char}
    (hstarts : isBlank c = false ∧ c ≠ ']' ∧ c ≠ '\x7d')
    (hparse : ∀ fuel levels rest, tail.length ≤ fuel → depth ≤ levels → Closes rest →
      parseValue (fuel + 1) levels (c :: tail ++ rest) = .ok (v, rest)) :
    Reads depth v (c :: tail) := by
  refine ⟨⟨c, tail, rfl, hstarts⟩, ?_⟩
  intro fuel levels rest hfuel hlevels hrest
  cases fuel with
  | zero => cases hfuel
  | succ fuel => exact hparse fuel levels rest (Nat.le_of_succ_le_succ hfuel) hlevels hrest

section Leaves

variable (depth : Nat)

theorem reads_null : Reads depth .null "null".toList := by
  refine reads_cons (by decide) ?_
  intro fuel levels rest _ _ _
  rw [parseValue]
  rfl

theorem reads_true : Reads depth (.bool true) "true".toList := by
  refine reads_cons (by decide) ?_
  intro fuel levels rest _ _ _
  rw [parseValue]
  rfl

theorem reads_false : Reads depth (.bool false) "false".toList := by
  refine reads_cons (by decide) ?_
  intro fuel levels rest _ _ _
  rw [parseValue]
  rfl

/-- The first character of a number. -/
theorem exists_chars_integer (i : Int) :
    ∃ c tail, (Number.integer i).chars = c :: tail ∧ (c = '-' ∨ c.isDigit = true) := by
  rw [chars_integer]
  split
  · obtain ⟨c, cs, hcs⟩ :=
      List.exists_cons_of_ne_nil (Nat.toDigits_ne_nil (n := i.toNat) (b := 10))
    exact ⟨c, cs, hcs, .inr (Nat.isDigit_of_mem_toDigits (by decide) (by decide)
      (hcs ▸ List.mem_cons_self))⟩
  · exact ⟨_, _, rfl, .inl rfl⟩

/-- A character that starts a number starts no other value and is no blank. -/
theorem ne_of_startsNumber {c : Char} (hc : c = '-' ∨ c.isDigit = true) :
    isBlank c = false ∧ c ≠ 'n' ∧ c ≠ 't' ∧ c ≠ 'f' ∧ c ≠ '"' ∧ c ≠ '[' ∧ c ≠ ']' ∧
      c ≠ '\x7b' ∧ c ≠ '\x7d' := by
  rcases hc with rfl | hdigit
  · decide
  · refine ⟨?_, ?_, ?_, ?_, ?_, ?_, ?_, ?_, ?_⟩
    · rw [Bool.eq_false_iff]
      intro hblank
      rw [(closes_of_blank hblank).1] at hdigit
      cases hdigit
    all_goals
      rintro rfl
      exact absurd hdigit (by decide)

/-- An integer is read wherever a number may end. -/
theorem reads_integer {i : Int} (hi : Is64 i) :
    Reads depth (.number (.integer i)) (Number.integer i).chars := by
  obtain ⟨c, tail, hchars, hc⟩ := exists_chars_integer i
  obtain ⟨hblank, hn, ht, hf, hquote, hopen, hclose, hbrace, hclosing⟩ := ne_of_startsNumber hc
  rw [hchars]
  refine reads_cons ⟨hblank, hclose, hclosing⟩ ?_
  intro fuel levels rest _ _ hrest
  have hparse := parseNumber_chars hi hrest
  rw [hchars, List.cons_append] at hparse
  rw [List.cons_append]
  rw [parseValue, skip_cons hblank]
  -- No other value starts like a number, so the branches for those are out.
  simp only
  split
  any_goals contradiction
  rw [hparse]
  rfl

/-- A string ends with its quote, whatever follows. -/
theorem reads_string (s : String) : Reads depth (.string s) (quote s) := by
  refine reads_cons (by decide) ?_
  intro fuel levels rest hfuel _ _
  -- One step for each character of the text leaves enough for those of the string.
  have hlength := length_lt_quote s
  rw [quote, List.length_cons] at hlength
  have hparse := parseString_quote s (fuel + 1) (by omega) rest
  rw [List.cons_append, List.append_assoc, parseValue, skip_cons (by decide)]
  simp only [List.singleton_append, hparse]
  rfl

end Leaves

/-! ### Members between brackets -/

theorem separated_cons_cons (separator x y : List Char) (texts : List (List Char)) :
    separated separator (x :: y :: texts) = x ++ (separator ++ separated separator (y :: texts)) := by
  rw [separated, List.append_assoc]

theorem separated_cons (separator x : List Char) (texts : List (List Char)) :
    ∃ more, separated separator (x :: texts) = x ++ more := by
  cases texts with
  | nil => exact ⟨[], by rw [List.append_nil]; rfl⟩
  | cons y texts => exact ⟨_, separated_cons_cons separator x y texts⟩

section Members

variable {depth : Nat} {gap close : List Char} (hgap : Blank gap) (hclose : Blank close)

/-- A member is read wherever it stands between brackets. -/
theorem Reads.skip_separated {v : Json} {text : List Char} (hreads : Reads depth v text)
    (separator : List Char) (texts : List (List Char)) (rest : List Char) :
    ∃ c tail, c ≠ ']' ∧ c ≠ '\x7d' ∧ isBlank c = false ∧
      separated separator (text :: texts) ++ rest = c :: tail := by
  obtain ⟨c, tail, rfl, hblank, hbracket, hbrace⟩ := hreads.starts
  obtain ⟨more, hmore⟩ := separated_cons separator (c :: tail) texts
  exact ⟨c, tail ++ more ++ rest, hbracket, hbrace, hblank, by rw [hmore]; rfl⟩

include hgap hclose

/-- Items that are read one by one are read in a row, up to the closing bracket. -/
theorem parseItems_separated {item : Json} {items : List Json} {text : List Char}
    {texts : List (List Char)} (hitem : Reads depth item text)
    (hitems : List.Forall₂ (Reads depth) items texts) (fuel levels : Nat)
    (hfuel : (separated (',' :: gap) (text :: texts)).length < fuel) (hlevels : depth ≤ levels)
    (done : List Json) (rest : List Char) :
    parseItems fuel levels done (separated (',' :: gap) (text :: texts) ++ (close ++ ']' :: rest)) =
      .ok (.array (done.reverse ++ item :: items), rest) := by
  -- Each member is followed by the bracket or by a comma and the other members.
  induction hitems generalizing item text fuel done with
  | nil =>
    obtain ⟨fuel, rfl⟩ := Nat.exists_eq_succ_of_ne_zero (Nat.ne_zero_of_lt hfuel)
    have hrest : Closes (close ++ ']' :: rest) :=
      closes_blank_append hclose (closes_cons (by decide) _)
    have hend : skip (close ++ ']' :: rest) = ']' :: rest := by
      rw [skip_blank_append hclose, skip_cons (by decide)]
    rw [separated] at hfuel ⊢
    exact parseItems_last (hitem.parse fuel levels _ (by omega) hlevels hrest) hend done
  | @cons next text' items texts hnext hitems ih =>
    obtain ⟨fuel, rfl⟩ := Nat.exists_eq_succ_of_ne_zero (Nat.ne_zero_of_lt hfuel)
    rw [separated_cons_cons] at hfuel ⊢
    simp only [List.length_append, List.length_cons] at hfuel
    have hothers := ih hnext fuel (by omega) (item :: done)
    -- Behind the comma stands another item, not the bracket.
    obtain ⟨c, tail, hbracket, -, hblank, htail⟩ :=
      hnext.skip_separated (',' :: gap) texts (close ++ ']' :: rest)
    rw [htail] at hothers
    simp only [List.append_assoc, List.cons_append, htail]
    have hmore : skip (gap ++ c :: tail) = c :: tail := by
      rw [skip_blank_append hgap, skip_cons hblank]
    rw [parseItems_next (hitem.parse fuel levels _ (by omega) hlevels (closes_cons (by decide) _))
      (skip_cons (by decide) _) hmore hbracket, hothers]
    simp

/-- An array is read if each of its items is. -/
theorem reads_array {item : Json} {items : List Json} {text : List Char}
    {texts : List (List Char)} (hitem : Reads depth item text)
    (hitems : List.Forall₂ (Reads depth) items texts) :
    Reads (depth + 1) (.array (item :: items))
      ('[' :: (gap ++ separated (',' :: gap) (text :: texts) ++ (close ++ [']']))) := by
  refine reads_cons (by decide) ?_
  intro fuel levels rest hfuel hlevels _
  -- One of the levels is used up by this bracket.
  obtain ⟨levels, rfl⟩ := Nat.exists_eq_succ_of_ne_zero (Nat.ne_zero_of_lt hlevels)
  simp only [List.length_append, List.length_cons, List.length_nil] at hfuel
  have hparse := parseItems_separated hgap hclose hitem hitems fuel levels (by omega) (by omega)
    [] rest
  obtain ⟨c, tail, hbracket, -, hblank, htail⟩ :=
    hitem.skip_separated (',' :: gap) texts (close ++ ']' :: rest)
  rw [htail] at hparse
  simp only [List.cons_append, List.append_assoc, List.nil_append, htail]
  rw [parseValue, skip_cons (by decide)]
  simp only [skip_blank_append hgap, skip_cons hblank]
  -- An array with an item does not start with its closing bracket.
  split
  · next heq => exact absurd (List.cons.inj heq).1 hbracket
  · next heq => cases heq
  · rw [hparse]
    rfl

omit hgap hclose

/-- The text of a field: its name, a colon, perhaps blanks, and a value that is read. -/
def ReadsField (depth : Nat) (colon : List Char) (field : String × Json) (text : List Char) :
    Prop :=
  ∃ value, text = quote field.1 ++ ':' :: (colon ++ value) ∧ Reads depth field.2 value

/-- A field whose name comes behind all others goes to the end. -/
theorem insertField_last {name : String} (value : Json) {done : List (String × Json)}
    (hlast : ∀ field ∈ done, field.1 < name) :
    insertField name value done = done ++ [(name, value)] := by
  induction done with
  | nil => rfl
  | cons field rest ih =>
    obtain ⟨other, kept⟩ := field
    have hbefore : other < name := hlast (other, kept) (by simp)
    -- No name comes before itself.
    have hne : name ≠ other := by
      rintro rfl
      exact String.lt_irrefl _ hbefore
    rw [insertField, if_neg (String.lt_asymm hbefore), if_neg hne,
      ih fun f hf => hlast f (List.mem_cons_of_mem _ hf), List.cons_append]

/-- Names in ascending order. -/
def Sorted (fields : List (String × Json)) : Prop :=
  fields.Pairwise fun f g => f.1 < g.1

theorem parseName_quote (name : String) {fuel : Nat} (hfuel : name.toList.length < fuel)
    (rest : List Char) :
    parseName fuel (quote name ++ ':' :: rest) = .ok (name, rest) := by
  rw [quote, List.cons_append, List.append_assoc, List.singleton_append]
  simp only [parseName]
  rw [parseString_quote name fuel hfuel]
  rfl

/-- A row of fields starts with the quote of the first name. -/
theorem ReadsField.skip_separated {colon : List Char} {field : String × Json} {text : List Char}
    (hreads : ReadsField depth colon field text) (separator : List Char)
    (texts : List (List Char)) (rest : List Char) :
    ∃ tail, separated separator (text :: texts) ++ rest = '"' :: tail := by
  obtain ⟨value, rfl, -⟩ := hreads
  obtain ⟨more, hmore⟩ := separated_cons separator (quote field.1 ++ ':' :: (colon ++ value)) texts
  exact ⟨_, by rw [hmore, quote]; rfl⟩

variable {colon : List Char} (hcolon : Blank colon)

include hcolon

/-- A field takes one step, and its value one for each of its characters. -/
theorem parseFields_field {field : String × Json} {text : List Char}
    (hfield : ReadsField depth colon field text) (fuel levels : Nat)
    (hfuel : text.length ≤ fuel) (hlevels : depth ≤ levels) {rest : List Char}
    (hrest : Closes rest) :
    ∃ after, parseName (fuel + 1) (text ++ rest) = .ok (field.1, after) ∧
      parseValue fuel levels after = .ok (field.2, rest) := by
  obtain ⟨value, rfl, hvalue⟩ := hfield
  have hlength := length_lt_quote field.1
  simp only [List.length_append, List.length_cons] at hfuel
  refine ⟨colon ++ value ++ rest, ?_, ?_⟩
  · rw [List.append_assoc, List.cons_append]
    exact parseName_quote field.1 (by omega) _
  · rw [List.append_assoc, parseValue_blank_append _ _ hcolon]
    exact hvalue.parse fuel levels rest (by omega) hlevels hrest

include hgap hclose

/-- Fields that are read one by one are read in a row, up to the closing brace. -/
theorem parseFields_separated {field : String × Json} {fields : List (String × Json)}
    {text : List Char} {texts : List (List Char)} (hfield : ReadsField depth colon field text)
    (hfields : List.Forall₂ (ReadsField depth colon) fields texts) (fuel levels : Nat)
    (hfuel : (separated (',' :: gap) (text :: texts)).length < fuel) (hlevels : depth ≤ levels)
    (done : List (String × Json)) (hsorted : Sorted (done ++ field :: fields))
    (rest : List Char) :
    parseFields fuel levels done
        (separated (',' :: gap) (text :: texts) ++ (close ++ '\x7d' :: rest)) =
      .ok (.object (done ++ field :: fields), rest) := by
  have hlast {field : String × Json} {fields done : List (String × Json)}
      (hsorted : Sorted (done ++ field :: fields)) :
      insertField field.1 field.2 done = done ++ [field] :=
    insertField_last field.2 fun f hf => (List.pairwise_append.mp hsorted).2.2 f hf field (by simp)
  -- The fields so far are in order, and the next one comes behind all of them.
  induction hfields generalizing field text fuel done with
  | nil =>
    obtain ⟨fuel, rfl⟩ := Nat.exists_eq_succ_of_ne_zero (Nat.ne_zero_of_lt hfuel)
    have hrest : Closes (close ++ '\x7d' :: rest) :=
      closes_blank_append hclose (closes_cons (by decide) _)
    rw [separated] at hfuel ⊢
    obtain ⟨after, hname, hvalue⟩ :=
      parseFields_field hcolon hfield fuel levels (by omega) hlevels hrest
    have hend : skip (close ++ '\x7d' :: rest) = '\x7d' :: rest := by
      rw [skip_blank_append hclose, skip_cons (by decide)]
    rw [parseFields_last hname hvalue hend, hlast hsorted]
  | @cons next text' fields texts hnext hfields ih =>
    obtain ⟨fuel, rfl⟩ := Nat.exists_eq_succ_of_ne_zero (Nat.ne_zero_of_lt hfuel)
    rw [separated_cons_cons] at hfuel ⊢
    simp only [List.length_append, List.length_cons] at hfuel
    -- The field that was just read joins those that are done.
    have hsorted' : Sorted ((done ++ [field]) ++ next :: fields) := by
      rw [List.append_assoc]
      exact hsorted
    have hothers := ih hnext fuel (by omega) (done ++ [field]) hsorted'
    obtain ⟨tail, htail⟩ :=
      hnext.skip_separated (',' :: gap) texts (close ++ '\x7d' :: rest)
    rw [htail] at hothers
    simp only [List.append_assoc, List.cons_append, htail]
    obtain ⟨after, hname, hvalue⟩ := parseFields_field hcolon hfield fuel levels (by omega)
      hlevels (closes_cons (c := ',') (by decide) (gap ++ '"' :: tail))
    have hmore : skip (gap ++ '"' :: tail) = '"' :: tail := by
      rw [skip_blank_append hgap, skip_cons (by decide)]
    rw [parseFields_next hname hvalue (skip_cons (by decide) _) hmore, hlast hsorted, hothers]
    simp

/-- An object is read if its fields are and stand in the order of their names. -/
theorem reads_object {field : String × Json} {fields : List (String × Json)} {text : List Char}
    {texts : List (List Char)} (hfield : ReadsField depth colon field text)
    (hfields : List.Forall₂ (ReadsField depth colon) fields texts)
    (hsorted : Sorted (field :: fields)) :
    Reads (depth + 1) (.object (field :: fields))
      ('\x7b' :: (gap ++ separated (',' :: gap) (text :: texts) ++ (close ++ ['\x7d']))) := by
  refine reads_cons (by decide) ?_
  intro fuel levels rest hfuel hlevels _
  -- One of the levels is used up by this brace.
  obtain ⟨levels, rfl⟩ := Nat.exists_eq_succ_of_ne_zero (Nat.ne_zero_of_lt hlevels)
  simp only [List.length_append, List.length_cons, List.length_nil] at hfuel
  have hparse := parseFields_separated hgap hclose hcolon hfield hfields fuel levels (by omega)
    (by omega) [] hsorted rest
  obtain ⟨tail, htail⟩ := hfield.skip_separated (',' :: gap) texts (close ++ '\x7d' :: rest)
  rw [htail] at hparse
  simp only [List.cons_append, List.append_assoc, List.nil_append, htail]
  rw [parseValue, skip_cons (by decide)]
  simp only [skip_blank_append hgap, skip_cons (c := '"') (by decide)]
  exact hparse

end Members

theorem reads_object_nil (depth : Nat) : Reads (depth + 1) (.object []) ['\x7b', '\x7d'] := by
  refine reads_cons (by decide) ?_
  intro fuel levels rest _ hlevels _
  obtain ⟨levels, rfl⟩ := Nat.exists_eq_succ_of_ne_zero (Nat.ne_zero_of_lt hlevels)
  rw [parseValue]
  rfl

theorem reads_array_nil (depth : Nat) : Reads (depth + 1) (.array []) ['[', ']'] := by
  refine reads_cons (by decide) ?_
  intro fuel levels rest _ hlevels _
  obtain ⟨levels, rfl⟩ := Nat.exists_eq_succ_of_ne_zero (Nat.ne_zero_of_lt hlevels)
  rw [parseValue]
  rfl

/-! ## §5. What is written -/

/-- The values that are read back, if `depth` levels of brackets may be opened. -/
def Plain : (depth : Nat) → Json → Prop
  | _, .null => True
  | _, .bool _ => True
  | _, .string _ => True
  | _, .number (.integer i) => Is64 i
  | _, .number (.float _) => False
  | 0, .array _ => False
  | 0, .object _ => False
  | depth + 1, .array items => ∀ item ∈ items, Plain depth item
  | depth + 1, .object fields => Sorted fields ∧ ∀ field ∈ fields, Plain depth field.2

theorem plain_integer {depth : Nat} {i : Int} :
    Plain depth (.number (.integer i)) ↔ Is64 i := by
  cases depth <;> exact Iff.rfl

theorem not_plain_float {depth : Nat} {x : Binary64} : ¬ Plain depth (.number (.float x)) := by
  cases depth <;> exact id

theorem plain_string (depth : Nat) (s : String) : Plain depth (.string s) := by
  cases depth <;> exact trivial

theorem itemChars_eq (items : List Json) : itemChars items = items.map chars := by
  induction items with
  | nil => rfl
  | cons item rest ih => rw [itemChars, ih, List.map_cons]

theorem fieldChars_eq (fields : List (String × Json)) :
    fieldChars fields = fields.map fun f => quote f.1 ++ ':' :: f.2.chars := by
  induction fields with
  | nil => rfl
  | cons field rest ih =>
    obtain ⟨name, value⟩ := field
    rw [fieldChars, ih, List.map_cons]

theorem prettyItems_eq (level : Nat) (items : List Json) :
    prettyItems level items = items.map (prettyChars level) := by
  induction items with
  | nil => rfl
  | cons item rest ih => rw [prettyItems, ih, List.map_cons]

theorem prettyFields_eq (level : Nat) (fields : List (String × Json)) :
    prettyFields level fields =
      fields.map fun f => quote f.1 ++ ':' :: ' ' :: f.2.prettyChars level := by
  induction fields with
  | nil => rfl
  | cons field rest ih =>
    obtain ⟨name, value⟩ := field
    rw [prettyFields, ih, List.map_cons]

theorem blank_nil : Blank [] := by
  intro c hc
  cases hc

theorem blank_singleton {c : Char} (hc : isBlank c = true) : Blank [c] := by
  intro d hd
  rw [List.mem_singleton.mp hd]
  exact hc

theorem blank_newline (level : Nat) : Blank (newline level) := by
  intro c hc
  rcases List.mem_cons.mp hc with rfl | hspace
  · rfl
  · rw [(List.mem_replicate.mp hspace).2]
    rfl

/-- A way of writing values. What is free is the blanks inside of brackets and behind colons. -/
structure Style where
  write : (level : Nat) → Json → List Char
  gap : (level : Nat) → List Char
  close : (level : Nat) → List Char
  colon : List Char
  blank_gap : ∀ level, Blank (gap level)
  blank_close : ∀ level, Blank (close level)
  blank_colon : Blank colon
  write_null : ∀ level, write level .null = "null".toList
  write_true : ∀ level, write level (.bool true) = "true".toList
  write_false : ∀ level, write level (.bool false) = "false".toList
  write_number : ∀ level n, write level (.number n) = n.chars
  write_string : ∀ level s, write level (.string s) = quote s
  write_array_nil : ∀ level, write level (.array []) = ['[', ']']
  write_array : ∀ level item items, write level (.array (item :: items)) =
    '[' :: (gap level ++ separated (',' :: gap level) ((item :: items).map (write (level + 1))) ++
      (close level ++ [']']))
  write_object_nil : ∀ level, write level (.object []) = ['\x7b', '\x7d']
  write_object : ∀ level field fields, write level (.object (field :: fields)) =
    '\x7b' :: (gap level ++ separated (',' :: gap level) ((field :: fields).map fun f =>
      quote f.1 ++ ':' :: (colon ++ write (level + 1) f.2)) ++ (close level ++ ['\x7d']))

namespace Style

/-- No blanks at all. -/
def compact : Style where
  write _ := chars
  gap _ := []
  close _ := []
  colon := []
  blank_gap _ := blank_nil
  blank_close _ := blank_nil
  blank_colon := blank_nil
  write_null _ := by rw [chars]
  write_true _ := by rw [chars]
  write_false _ := by rw [chars]
  write_number _ n := by rw [chars]
  write_string _ s := by rw [chars]
  write_array_nil _ := rfl
  write_array _ item items := by rw [chars, itemChars_eq]; rfl
  write_object_nil _ := rfl
  write_object _ field fields := by rw [chars, fieldChars_eq]; rfl

/-- A block with something in it takes a line for each of its texts. -/
theorem block_cons (level : Nat) (opening closing : Char) (x : List Char)
    (texts : List (List Char)) :
    block level opening closing (x :: texts) =
      opening :: (newline (level + 1) ++
        separated (',' :: newline (level + 1)) (x :: texts) ++ (newline level ++ [closing])) := by
  simp [block]

/-- One member to a line, indented by its level, and one blank behind each colon. -/
def pretty : Style where
  write := prettyChars
  gap level := newline (level + 1)
  close level := newline level
  colon := [' ']
  blank_gap level := blank_newline (level + 1)
  blank_close level := blank_newline level
  blank_colon := blank_singleton rfl
  write_null _ := by rw [prettyChars]
  write_true _ := by rw [prettyChars]
  write_false _ := by rw [prettyChars]
  write_number _ n := by rw [prettyChars]
  write_string _ s := by rw [prettyChars]
  write_array_nil _ := by rw [prettyChars]; rfl
  write_array level item items := by
    rw [prettyChars, prettyItems_eq, List.map_cons, block_cons]
  write_object_nil _ := by rw [prettyChars]; rfl
  write_object level field fields := by
    rw [prettyChars, prettyFields_eq, List.map_cons, block_cons]
    rfl

/-- What is not in brackets is written in the same way in all styles. -/
theorem reads_leaf (style : Style) {depth : Nat} {v : Json} (hplain : Plain depth v)
    (harray : ∀ items, v ≠ .array items) (hobject : ∀ fields, v ≠ .object fields) (level : Nat) :
    Reads depth v (style.write level v) := by
  cases v with
  | null => exact style.write_null level ▸ reads_null depth
  | bool b =>
    cases b
    · exact style.write_false level ▸ reads_false depth
    · exact style.write_true level ▸ reads_true depth
  | string s => exact style.write_string level s ▸ reads_string depth s
  | number n =>
    cases n with
    | integer i => exact style.write_number level _ ▸ reads_integer depth (plain_integer.mp hplain)
    | float x => exact absurd hplain not_plain_float
  | array items => exact absurd rfl (harray items)
  | object fields => exact absurd rfl (hobject fields)

/-- In every style, a plain value is read as itself. -/
theorem reads_write (style : Style) {depth : Nat} {v : Json} (hplain : Plain depth v)
    (level : Nat) : Reads depth v (style.write level v) := by
  -- The induction is on the levels of brackets, the cases are those of the value.
  induction depth generalizing v level with
  | zero =>
    cases v with
    | array items => cases hplain
    | object fields => cases hplain
    | _ => exact style.reads_leaf hplain nofun nofun level
  | succ depth ih =>
    cases v with
    | array items =>
      cases items with
      | nil => exact style.write_array_nil level ▸ reads_array_nil depth
      | cons item rest =>
        rw [style.write_array]
        -- The items are one level further in, so they are read by induction.
        exact reads_array (style.blank_gap level) (style.blank_close level)
          (ih (hplain item (by simp)) (level + 1))
          (List.forall₂_map_right_iff.mpr (List.forall₂_same.mpr fun a ha =>
            ih (hplain a (List.mem_cons_of_mem _ ha)) (level + 1)))
    | object fields =>
      obtain ⟨hsorted, hvalues⟩ := hplain
      cases fields with
      | nil => exact style.write_object_nil level ▸ reads_object_nil depth
      | cons field rest =>
        -- So are the values of the fields, each behind its name.
        have hfield : ∀ f ∈ field :: rest, ReadsField depth style.colon f
            (quote f.1 ++ ':' :: (style.colon ++ style.write (level + 1) f.2)) :=
          fun f hf => ⟨_, rfl, ih (hvalues f hf) (level + 1)⟩
        rw [style.write_object]
        exact reads_object (style.blank_gap level) (style.blank_close level) style.blank_colon
          (hfield field (by simp))
          (List.forall₂_map_right_iff.mpr (List.forall₂_same.mpr fun f hf =>
            hfield f (List.mem_cons_of_mem _ hf))) hsorted
    | _ => exact style.reads_leaf hplain nofun nofun level

end Style

/-- A text that is read as a value is read as that value with blanks behind it. -/
theorem Reads.parse_append {v : Json} {cs gap : List Char} (hreads : Reads depthLimit v cs)
    (hgap : Blank gap) : Json.parse (String.ofList (cs ++ gap)) = .ok v := by
  have hclosed : Closes gap := by
    rw [← List.append_nil gap]
    exact closes_blank_append hgap closes_nil
  -- Nothing is left over once the blanks behind the value are skipped.
  have hskip : skip gap = [] := by
    rw [← List.append_nil gap, skip_blank_append hgap]
    rfl
  rw [Json.parse, String.toList_ofList, parseChars,
    hreads.parse _ depthLimit gap (by simp; omega) (Nat.le_refl _) hclosed]
  simp [hskip]

/-- A value is read back from its text without blanks. -/
theorem parse_compact {v : Json} (hplain : Plain depthLimit v) : parse v.compact = .ok v := by
  have hreads := Style.compact.reads_write hplain 0
  rw [compact, ← List.append_nil v.chars]
  exact hreads.parse_append blank_nil

/-- A value is read back from its text with one member to a line. -/
theorem parse_pretty {v : Json} (hplain : Plain depthLimit v) :
    parse (v.pretty ++ "\n") = .ok v := by
  have hreads := Style.pretty.reads_write hplain 0
  have htext : v.pretty ++ "\n" = String.ofList (v.prettyChars 0 ++ ['\n']) := by
    rw [pretty, String.ofList_append]
  rw [htext]
  exact hreads.parse_append (blank_singleton rfl)

/-! ## §6. Objects from fields in any order -/

theorem mem_insertField {name : String} {value : Json} {fields : List (String × Json)}
    {field : String × Json} (hfield : field ∈ insertField name value fields) :
    field = (name, value) ∨ field ∈ fields := by
  induction fields with
  | nil => simpa [insertField] using hfield
  | cons first rest ih =>
    obtain ⟨other, kept⟩ := first
    rw [insertField] at hfield
    -- The field goes in front of the first one, takes its place, or goes behind it.
    split at hfield
    · simpa using hfield
    · split at hfield
      · rcases List.mem_cons.mp hfield with rfl | hrest
        · exact .inl rfl
        · exact .inr (List.mem_cons_of_mem _ hrest)
      · rcases List.mem_cons.mp hfield with rfl | hrest
        · exact .inr (by simp)
        · rcases ih hrest with rfl | hmem
          · exact .inl rfl
          · exact .inr (List.mem_cons_of_mem _ hmem)

/-- Fields in order stay in order when one is put in. -/
theorem Sorted.insertField {fields : List (String × Json)} (hsorted : Sorted fields)
    (name : String) (value : Json) : Sorted (Json.insertField name value fields) := by
  induction fields with
  | nil => exact List.pairwise_singleton _ _
  | cons first rest ih =>
    obtain ⟨other, kept⟩ := first
    obtain ⟨hfirst, hrest⟩ := List.pairwise_cons.mp hsorted
    rw [Json.insertField]
    split
    · next hlt =>
      -- It comes before the first one, and so before all others.
      refine List.pairwise_cons.mpr ⟨?_, hsorted⟩
      intro f hf
      rcases List.mem_cons.mp hf with rfl | hf
      · exact hlt
      · exact String.lt_trans hlt (hfirst f hf)
    · split
      · next heq =>
        subst heq
        exact List.pairwise_cons.mpr ⟨hfirst, hrest⟩
      · next hlt hne =>
        -- Names are in a total order, so the other one comes first.
        have hbefore : other < name := Std.lt_of_le_of_ne (Std.not_lt.mp hlt) (Ne.symm hne)
        refine List.pairwise_cons.mpr ⟨?_, ih hrest⟩
        intro f hf
        rcases mem_insertField hf with rfl | hf
        · exact hbefore
        · exact hfirst f hf

/-- The fields of an object are in order and hold what was listed. -/
theorem plain_ofFields {depth : Nat} {fields : List (String × Json)}
    (hplain : ∀ field ∈ fields, Plain depth field.2) : Plain (depth + 1) (ofFields fields) := by
  -- This holds with any fields in place already, which is what the induction needs.
  have hfold : ∀ done : List (String × Json), Sorted done →
      (∀ field ∈ done, Plain depth field.2) →
      Plain (depth + 1) (.object
        (fields.foldl (fun done field => insertField field.1 field.2 done) done)) := by
    induction fields with
    | nil => exact fun done hsorted hdone => ⟨hsorted, hdone⟩
    | cons field rest ih =>
      intro done hsorted hdone
      refine ih (fun f hf => hplain f (List.mem_cons_of_mem _ hf)) _
        (hsorted.insertField field.1 field.2) ?_
      intro f hf
      rcases mem_insertField hf with rfl | hf
      · exact hplain field (by simp)
      · exact hdone f hf
  exact hfold [] List.Pairwise.nil (fun _ hf => by cases hf)

end Wallet.Json
