import Wallet.Phrase.Words

/-!
# Seed phrases

A phrase of fifteen words is made from five random words of 32 bits, three words each. The digits
of a draw in base 2048 are not used as they are: each word number is the sum of a digit and the
number before it, so that the three words differ from digit to digit.

Numbers have 32 bits. A sum that needs more of them, or a number that no word has, would leave no
phrase to answer with. Neither happens, whatever is drawn (`isSome_generate?`).
-/

namespace Wallet.Phrase

/-- How many words there are to choose from. -/
def wordCount : UInt32 := 2048

/-- The sum of two numbers, if 32 bits are enough for it. -/
def sum? (m n : UInt32) : Option UInt32 :=
  if m.toNat + n.toNat < UInt32.size then some (m + n) else none

/-- The three word numbers of a draw. -/
def indices? (draw : UInt32) : Option (List UInt32) := do
  let first := draw % wordCount
  let second := (← sum? (draw / wordCount) first) % wordCount
  let third := (← sum? (draw / wordCount / wordCount) second) % wordCount
  return [first, second, third]

/-- The word of a number. -/
def word? (index : UInt32) : Option String :=
  words[index.toNat]?

/-- The three words of a draw. -/
def wordsFor? (draw : UInt32) : Option (List String) := do
  (← indices? draw).mapM word?

/-- The fifteen words of five draws. -/
def wordsOf? (draws : Vector UInt32 5) : Option (List String) := do
  return (← draws.toList.mapM wordsFor?).flatten

/-- The phrase of five draws, if it has one: its words with a blank between them. -/
def generate? (draws : Vector UInt32 5) : Option String :=
  (wordsOf? draws).map (" ".intercalate ·)

/-! ## §1. There is always a phrase -/

theorem length_words : words.length = 2048 := by
  decide +kernel

theorem toNat_mod_wordCount (n : UInt32) : (n % wordCount).toNat = n.toNat % 2048 :=
  UInt32.toNat_mod n wordCount

theorem toNat_div_wordCount (n : UInt32) : (n / wordCount).toNat = n.toNat / 2048 :=
  UInt32.toNat_div n wordCount

/-- A digit and a word number are far too small for an overflow. -/
theorem sum?_digit (digit index : UInt32) :
    sum? (digit / wordCount) (index % wordCount) =
      some (digit / wordCount + index % wordCount) := by
  have hdigit := digit.toNat_lt
  refine if_pos ?_
  rw [toNat_div_wordCount, toNat_mod_wordCount, UInt32.size]
  omega

theorem indices?_eq (draw : UInt32) :
    let first := draw % wordCount
    let second := (draw / wordCount + first) % wordCount
    indices? draw = some [first, second, (draw / wordCount / wordCount + second) % wordCount] := by
  simp only [indices?, sum?_digit, Option.bind_eq_bind, Option.bind_some, Option.pure_def]

/-- Every number below 2048 has a word. -/
theorem word?_mod (index : UInt32) : ∃ w, word? (index % wordCount) = some w := by
  have hlt : (index % wordCount).toNat < words.length := by
    rw [toNat_mod_wordCount, length_words]
    omega
  exact ⟨_, List.getElem?_eq_getElem hlt⟩

theorem exists_mapM {α β : Type} {f : α → Option β} {list : List α}
    (hall : ∀ a ∈ list, ∃ b, f a = some b) : ∃ results, list.mapM f = some results := by
  induction list with
  | nil => exact ⟨[], rfl⟩
  | cons a rest ih =>
    obtain ⟨b, hb⟩ := hall a List.mem_cons_self
    obtain ⟨results, hresults⟩ := ih fun c hc => hall c (List.mem_cons_of_mem a hc)
    exact ⟨b :: results, by simp [hb, hresults]⟩

theorem exists_wordsFor (draw : UInt32) : ∃ group, wordsFor? draw = some group := by
  rw [wordsFor?, indices?_eq]
  apply exists_mapM
  simp only [List.forall_mem_cons, List.not_mem_nil, false_implies, implies_true, and_true]
  exact ⟨word?_mod _, word?_mod _, word?_mod _⟩

theorem isSome_generate? (draws : Vector UInt32 5) : (generate? draws).isSome = true := by
  obtain ⟨groups, hgroups⟩ := exists_mapM fun draw (_ : draw ∈ draws.toList) => exists_wordsFor draw
  simp [generate?, wordsOf?, hgroups]

/-- The phrase of five draws. -/
def generate (draws : Vector UInt32 5) : String :=
  (generate? draws).get (isSome_generate? draws)

end Wallet.Phrase
