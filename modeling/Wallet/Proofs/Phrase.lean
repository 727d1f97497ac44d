import Mathlib.Data.List.Chain
import Wallet.Phrase.Generation
import Wallet.Proofs.Text.Base64

/-!
# Generated phrases

Five random words of 32 bits become fifteen words of the list, and nothing of the 160 bits is lost
(`generate_lossless`). The way back has three parts. The words are recovered from the phrase
because none of them has a blank in it, and their numbers because none stands in the list twice.
The numbers of a draw are running sums of its digits in base 2048, so the digits are recovered as
differences of neighbours (`drawOf_numbers`). The sums are taken modulo 2048, but the first number
is a digit itself, and all digits are below 2048.
-/

namespace Wallet.Phrase

/-! ## §1. The list of words -/

/-- A word as a number: its bytes, filled up with zeros to a numeral of eight digits in base 256. It
is ascending where words are. -/
def rank (w : String) : Nat :=
  let bytes := Bytes.ofText w
  Bytes.toNat bytes * Nat.pow 256 (8 - bytes.length)

/-- Whether each number is above the one in front of it. -/
def ascends : (last : Nat) → List Nat → Bool
  | _, [] => true
  | last, n :: rest => decide (last < n) && ascends n rest

theorem isChain_of_ascends {last : Nat} {list : List Nat} (hascends : ascends last list = true) :
    (last :: list).IsChain (· < ·) := by
  induction list generalizing last with
  | nil => exact .singleton last
  | cons n rest ih =>
    rw [ascends, Bool.and_eq_true, decide_eq_true_eq] at hascends
    exact .cons_cons hascends.1 (ih hascends.2)

/-- The list is in the order of the alphabet. -/
theorem ascends_words : ascends 0 (words.map rank) = true := by
  decide +kernel

/-- No word stands in the list twice. -/
theorem nodup_words : words.Nodup := by
  have hascending : (0 :: words.map rank).Pairwise (· < ·) :=
    List.isChain_iff_pairwise.mp (isChain_of_ascends ascends_words)
  have hranks : (words.map rank).Pairwise (· < ·) := (List.pairwise_cons.mp hascending).2
  exact List.Nodup.of_map rank (hranks.imp Nat.ne_of_lt)

/-- Whether a text is a row of small letters, one at least. -/
def isLetters (text : String) : Bool :=
  let bytes := Bytes.ofText text
  !bytes.isEmpty && bytes.all fun byte => decide (97 ≤ byte.toNat) && decide (byte.toNat ≤ 122)

theorem all_isLetters_words : words.all isLetters = true := by
  decide +kernel

theorem letters_of_mem {w : String} (hw : w ∈ words) : Bytes.ofText w ≠ [] ∧
    ∀ byte ∈ Bytes.ofText w, 97 ≤ byte.toNat ∧ byte.toNat ≤ 122 := by
  have hletters : isLetters w = true := List.all_eq_true.mp all_isLetters_words w hw
  simpa [isLetters] using hletters

theorem blank_notMem {w : String} (hw : w ∈ words) : ' ' ∉ w.toList := by
  intro hblank
  have hbytes : Bytes.ofText w = w.toList.flatMap String.utf8EncodeChar := by
    rw [← Bytes.ofText_ofList, String.ofList_toList]
  -- A blank is a byte of its own, and not the byte of a letter.
  have hbyte : (32 : UInt8) ∈ Bytes.ofText w := by
    rw [hbytes]
    exact List.mem_flatMap.mpr ⟨' ', hblank, by decide⟩
  exact absurd ((letters_of_mem hw).2 32 hbyte).1 (by decide)

theorem ne_empty_of_mem {w : String} (hw : w ∈ words) : w ≠ "" := by
  rintro rfl
  exact (letters_of_mem hw).1 (by decide)

/-- The number of a word is its place in the list. -/
theorem idxOf_word {index : UInt32} {w : String} (hword : word? index = some w) :
    words.idxOf w = index.toNat := by
  obtain ⟨hlt, rfl⟩ := List.getElem?_eq_some_iff.mp hword
  exact nodup_words.idxOf_getElem index.toNat hlt

theorem mem_words_of_word {index : UInt32} {w : String} (hword : word? index = some w) :
    w ∈ words :=
  List.mem_of_getElem? hword

/-! ## §2. The numbers of a draw -/

/-- The three word numbers of a draw, as running sums of its digits in base 2048. -/
def numbers (draw : Nat) : List Nat :=
  let first := draw % 2048
  let second := (draw / 2048 + first) % 2048
  [first, second, (draw / 2048 / 2048 + second) % 2048]

/-- The draw that three word numbers come from: their differences are its digits. -/
def drawOf : List Nat → Nat
  | [first, second, third] =>
    first + 2048 * ((second + (2048 - first)) % 2048) +
      2048 * 2048 * ((third + (2048 - second)) % 2048)
  | _ => 0

/-- What is added to a word number is found as the difference to the next one. -/
theorem difference {quotient index : Nat} (hindex : index < 2048) :
    ((quotient + index) % 2048 + (2048 - index)) % 2048 = quotient % 2048 := by
  omega

/-- A draw is recovered from its three numbers. -/
theorem drawOf_numbers {draw : Nat} (hdraw : draw < 2 ^ 32) : drawOf (numbers draw) = draw := by
  have hfirst : draw % 2048 < 2048 := Nat.mod_lt _ (by decide)
  have hsecond : (draw / 2048 + draw % 2048) % 2048 < 2048 := Nat.mod_lt _ (by decide)
  rw [numbers, drawOf, difference hfirst, difference hsecond]
  -- The upper digit is what 32 bits leave of it.
  omega

theorem numbers_lt {draw n : Nat} (hn : n ∈ numbers draw) : n < 2048 := by
  simp only [numbers, List.mem_cons, List.not_mem_nil, or_false] at hn
  omega

theorem length_numbers (draw : Nat) : (numbers draw).length = 3 := rfl

/-- The sums that are computed are those of the numbers, since none of them overflows. -/
theorem exists_indices (draw : UInt32) : ∃ indices, indices? draw = some indices ∧
    indices.map UInt32.toNat = numbers draw.toNat := by
  have hstep (digit index : UInt32) : ((digit / wordCount + index) % wordCount).toNat =
      (digit.toNat / 2048 + index.toNat) % 2048 := by
    -- Were there an overflow, it would be by a multiple of 2048.
    rw [toNat_mod_wordCount, UInt32.toNat_add, toNat_div_wordCount]
    omega
  refine ⟨_, indices?_eq draw, ?_⟩
  simp only [List.map_cons, List.map_nil, hstep, toNat_mod_wordCount, toNat_div_wordCount, numbers]

/-! ## §3. The words of a draw -/

theorem forall₂_of_mapM_some {α β : Type} {f : α → Option β} {list : List α} {results : List β}
    (hmap : list.mapM f = some results) :
    List.Forall₂ (fun a b => f a = some b) list results := by
  induction list generalizing results with
  | nil =>
    cases hmap
    exact .nil
  | cons a rest ih =>
    simp only [List.mapM_cons, Option.bind_eq_bind, Option.bind_eq_some_iff, Option.pure_def,
      Option.some.injEq] at hmap
    obtain ⟨b, hb, others, hothers, rfl⟩ := hmap
    exact .cons hb (ih hothers)

/-- Words of the list that stand at given places. -/
structure StandAt (group : List String) (places : List Nat) : Prop where
  listed : ∀ w ∈ group, w ∈ words
  places : group.map words.idxOf = places

theorem StandAt.append {group rest : List String} {places others : List Nat}
    (hgroup : StandAt group places) (hrest : StandAt rest others) :
    StandAt (group ++ rest) (places ++ others) := by
  refine ⟨?_, ?_⟩
  · intro w hw
    rcases List.mem_append.mp hw with hw | hw
    · exact hgroup.listed w hw
    · exact hrest.listed w hw
  · rw [List.map_append, hgroup.places, hrest.places]

/-- Words that are looked up by number stand at that number. -/
theorem standAt_of_words {indices : List UInt32} {group : List String}
    (hwords : List.Forall₂ (fun index w => word? index = some w) indices group) :
    StandAt group (indices.map UInt32.toNat) := by
  induction hwords with
  | nil => exact ⟨by simp, rfl⟩
  | @cons index w indices group hword _ ih =>
    have hfirst : StandAt [w] [index.toNat] := by
      refine ⟨?_, ?_⟩
      · simpa using mem_words_of_word hword
      · rw [List.map_singleton, idxOf_word hword]
    exact hfirst.append ih

theorem standAt_of_wordsFor {draw : UInt32} {group : List String}
    (hgroup : wordsFor? draw = some group) : StandAt group (numbers draw.toNat) := by
  obtain ⟨indices, hindices, hnumbers⟩ := exists_indices draw
  rw [wordsFor?, hindices] at hgroup
  rw [← hnumbers]
  exact standAt_of_words (forall₂_of_mapM_some hgroup)

/-- The digits of 2049 are 1, 1 and 0. -/
example : wordsFor? 2049 = some ["ability", "able", "able"] := by
  decide

/-- The places of the words of several draws, one draw after the other. -/
theorem standAt_of_groups {draws : List UInt32} {groups : List (List String)}
    (hgroups : List.Forall₂ (fun draw group => wordsFor? draw = some group) draws groups) :
    StandAt groups.flatten (draws.flatMap fun draw => numbers draw.toNat) := by
  induction hgroups with
  | nil => exact ⟨by simp, rfl⟩
  | cons hgroup _ ih =>
    rw [List.flatten_cons, List.flatMap_cons]
    exact (standAt_of_wordsFor hgroup).append ih

theorem exists_wordsOf (draws : Vector UInt32 5) : ∃ list, wordsOf? draws = some list ∧
    StandAt list (draws.toList.flatMap fun draw => numbers draw.toNat) := by
  obtain ⟨groups, hgroups⟩ := exists_mapM fun draw (_ : draw ∈ draws.toList) => exists_wordsFor draw
  refine ⟨groups.flatten, by simp [wordsOf?, hgroups], ?_⟩
  exact standAt_of_groups (forall₂_of_mapM_some hgroups)

/-- The numbers of several draws come from these draws only. -/
theorem flatMap_numbers_inj {draws others : List UInt32} (hlength : draws.length = others.length)
    (hnumbers : (draws.flatMap fun draw => numbers draw.toNat) =
      others.flatMap fun draw => numbers draw.toNat) : draws = others := by
  -- Each draw has three numbers, so the first three are those of the first draw.
  induction draws generalizing others with
  | nil => exact (List.eq_nil_of_length_eq_zero hlength.symm).symm
  | cons draw draws ih =>
    cases others with
    | nil => simp at hlength
    | cons other others =>
      rw [List.flatMap_cons, List.flatMap_cons] at hnumbers
      obtain ⟨hfirst, hrest⟩ := List.append_inj hnumbers rfl
      have hdraw : draw.toNat = other.toNat := by
        rw [← drawOf_numbers draw.toNat_lt, hfirst, drawOf_numbers other.toNat_lt]
      rw [UInt32.toNat_inj.mp hdraw, ih (Nat.succ.inj hlength) hrest]

/-! ## §4. The phrase -/

/-- A text that is made of words of the list with single blanks between them, and of nothing else:
it falls into these words wherever there is a blank. -/
structure IsPhrase (text : String) (list : List String) : Prop where
  listed : ∀ w ∈ list, w ∈ words ∧ w ≠ "" ∧ ' ' ∉ w.toList
  joined : text = " ".intercalate list
  split : text.toList.splitOn ' ' = list.map String.toList

theorem isPhrase_intercalate {list : List String} (hne : list ≠ [])
    (hlisted : ∀ w ∈ list, w ∈ words) : IsPhrase (" ".intercalate list) list := by
  refine ⟨?_, rfl, ?_⟩
  · intro w hw
    have hword := hlisted w hw
    exact ⟨hword, ne_empty_of_mem hword, blank_notMem hword⟩
  · have hblanks : ∀ cs ∈ list.map String.toList, ' ' ∉ cs := by
      intro cs hcs
      obtain ⟨w, hw, rfl⟩ := List.mem_map.mp hcs
      exact blank_notMem (hlisted w hw)
    have hsome : list.map String.toList ≠ [] := by simpa using hne
    rw [String.toList_intercalate]
    exact List.splitOn_intercalate ' ' hblanks hsome

theorem IsPhrase.inj {text : String} {list others : List String} (hlist : IsPhrase text list)
    (hothers : IsPhrase text others) : list = others := by
  have hwords : list.map String.toList = others.map String.toList := by
    rw [← hlist.split, hothers.split]
  exact List.map_injective_iff.mpr (fun _ _ => String.toList_inj.mp) hwords

/-- What five draws lead to. -/
structure Generates (draws : Vector UInt32 5) : Prop where
  /-- No sum overflows, the numbers are those of the draw, and each of them has a word. -/
  indices : ∀ draw : UInt32, ∃ indices, indices? draw = some indices ∧
    indices.map UInt32.toNat = numbers draw.toNat ∧ ∀ index ∈ indices, index.toNat < 2048
  answers : generate? draws = some (generate draws)
  /-- The phrase has fifteen words, which stand in the list where the numbers say. -/
  phrase : ∃ list, list.length = 15 ∧ IsPhrase (generate draws) list ∧
    list.map words.idxOf = draws.toList.flatMap fun draw => numbers draw.toNat
  /-- Other draws lead to another phrase. -/
  kept : ∀ others, generate others = generate draws → others = draws

/-- A generated phrase has fifteen words, three for each draw. -/
theorem exists_phrase (draws : Vector UInt32 5) : ∃ list, list.length = 15 ∧
    IsPhrase (generate draws) list ∧
      list.map words.idxOf = draws.toList.flatMap fun draw => numbers draw.toNat := by
  obtain ⟨list, hlist, hstand⟩ := exists_wordsOf draws
  have hphrase : generate draws = " ".intercalate list := by
    simp [generate, generate?, hlist]
  -- Five draws have three numbers each.
  have hlength : list.length = 15 := by
    have hplaces := congrArg List.length hstand.places
    simpa [length_numbers] using hplaces
  have hne : list ≠ [] := List.ne_nil_of_length_pos (by omega)
  refine ⟨list, hlength, ?_, hstand.places⟩
  rw [hphrase]
  exact isPhrase_intercalate hne hstand.listed

/-- **Generated phrases are well-formed and lose nothing**: fifteen words of the list with single
blanks between them, and no two sequences of draws with the same phrase. -/
theorem generate_lossless (draws : Vector UInt32 5) : Generates draws := by
  constructor
  case indices =>
    intro draw
    obtain ⟨indices, hindices, hnumbers⟩ := exists_indices draw
    refine ⟨indices, hindices, hnumbers, ?_⟩
    intro index hindex
    exact numbers_lt (hnumbers ▸ List.mem_map_of_mem hindex)
  case answers => exact (Option.some_get _).symm
  case phrase => exact exists_phrase draws
  case kept =>
    intro others heq
    obtain ⟨list, -, hlist, hplaces⟩ := exists_phrase draws
    obtain ⟨list', -, hlist', hplaces'⟩ := exists_phrase others
    -- One phrase has one list of words, and with it one list of numbers.
    have hsame : list' = list := (heq ▸ hlist').inj hlist
    rw [hsame, hplaces] at hplaces'
    have hdraws : others.toList = draws.toList :=
      (flatMap_numbers_inj (by simp) hplaces').symm
    exact Vector.toList_inj.mp hdraws

end Wallet.Phrase
