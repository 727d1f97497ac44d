import Wallet.Proofs.Key.Secret

/-!
# Scalars drawn from a seed

The stream of a seed hands out its blocks one by one. After `k` draws its counter stands at `k` and
nothing is left in the buffer (`draw_reached`), so that no block is skipped, repeated or split.

A draw is rejected if the number after it is no scalar. `SampledAfter` follows a run of sampling
through its rejected draws, and the run from a seed ends at the first block whose number, plus one,
lies in `[1, n)` (`sampledAfter_reached_iff`).
-/

namespace Wallet

/-! ## §1. One more -/

theorem Bytes.toNatLittle_cons (byte : UInt8) (rest : Bytes) :
    Bytes.toNatLittle (byte :: rest) = byte.toNat + 256 * Bytes.toNatLittle rest := by
  rw [toNatLittle, List.reverse_cons, toNat, List.foldl_append, toNatLittle, toNat]
  simp only [List.foldl_cons, List.foldl_nil]
  omega

/-- Adding one gives the next number in as many bytes, or there is none. -/
theorem Bytes.incrementLittle?_cases (bytes : Bytes) :
    (∃ next, incrementLittle? bytes = some next ∧ next.length = bytes.length ∧
      toNatLittle next = toNatLittle bytes + 1) ∨
    (incrementLittle? bytes = none ∧ toNatLittle bytes + 1 = 256 ^ bytes.length) := by
  -- Along the carry: a byte that is full stands for the digit 255 in front of the rest.
  induction bytes with
  | nil => exact .inr ⟨rfl, rfl⟩
  | cons byte rest ih =>
    unfold incrementLittle?
    by_cases hroom : byte.toNat + 1 < UInt8.size
    · have hnext : (byte + 1).toNat = byte.toNat + 1 := by
        rw [UInt8.toNat_add, UInt8.toNat_one, Nat.mod_eq_of_lt hroom]
      rw [if_pos hroom]
      refine .inl ⟨_, rfl, rfl, ?_⟩
      rw [toNatLittle_cons, toNatLittle_cons, hnext]
      omega
    · -- The byte becomes zero and the rest is increased by one, if it can be.
      have hfull : byte.toNat = 255 := by
        have hbyte := byte.toNat_lt
        rw [UInt8.size] at hroom
        omega
      have hnext : (byte + 1).toNat = 0 := by
        rw [UInt8.toNat_add, UInt8.toNat_one, hfull]
      rw [if_neg hroom]
      rcases ih with ⟨next, hrest, hlength, hvalue⟩ | ⟨hrest, hvalue⟩
      · refine .inl ⟨(byte + 1) :: next, by rw [hrest]; rfl, by simp [hlength], ?_⟩
        rw [toNatLittle_cons, toNatLittle_cons, hnext, hvalue]
        omega
      · refine .inr ⟨by rw [hrest]; rfl, ?_⟩
        rw [toNatLittle_cons, hfull, List.length_cons, Nat.pow_succ, ← hvalue]
        omega

namespace Octets

variable {n : Nat}

theorem toNat_lt (number : Octets n) : number.toNat < 256 ^ n := by
  have hlt := Bytes.toNat_lt number.list
  rwa [number.length_eq] at hlt

theorem toNat_ofNat {x : Nat} (hx : x < 256 ^ n) : (ofNat n x).toNat = x :=
  toNat_bigEndian hx

/-- Byte strings of one length are told apart by their numbers. -/
theorem toNat_inj {x y : Octets n} (heq : x.toNat = y.toNat) : x = y := by
  rw [toNat, toNat, Bytes.toNat_eq_value, Bytes.toNat_eq_value] at heq
  have hlt (octets : Octets n) : ∀ d ∈ octets.list.map UInt8.toNat, d < 256 := by
    intro d hd
    obtain ⟨byte, -, rfl⟩ := List.mem_map.mp hd
    exact byte.toNat_lt
  have hlength : (x.list.map UInt8.toNat).length = (y.list.map UInt8.toNat).length := by
    rw [List.length_map, List.length_map, x.length_eq, y.length_eq]
  have hdigits := Radix.value_inj (by decide) hlength (hlt x) (hlt y) heq
  exact list_inj.mp (List.map_injective_iff.mpr (fun _ _ => UInt8.toNat_inj.mp) hdigits)

/-- Adding one to a number of fixed width gives the next one, or it was the greatest. -/
theorem increment?_cases (number : Octets n) :
    (∃ next, number.increment? = some next ∧ next.toNat = number.toNat + 1) ∨
      (number.increment? = none ∧ number.toNat + 1 = 256 ^ n) := by
  -- Increasing starts at the least byte, which stands last.
  have hlittle : Bytes.toNatLittle number.list.reverse = number.toNat := by
    rw [Bytes.toNatLittle, List.reverse_reverse, toNat]
  have hlength : number.list.reverse.length = n := by
    rw [List.length_reverse, number.length_eq]
  unfold increment?
  rcases Bytes.incrementLittle?_cases number.list.reverse with
    ⟨next, hnext, hwidth, hvalue⟩ | ⟨hnext, hvalue⟩
  · have hoctets : next.reverse.length = n := by rw [List.length_reverse, hwidth, hlength]
    refine .inl ⟨⟨next.reverse, hoctets⟩, ?_, ?_⟩
    · rw [hnext]
      exact dif_pos hoctets
    · rw [← hlittle, ← hvalue]
      rfl
  · refine .inr ⟨by simp [hnext], ?_⟩
    rw [← hlittle, hvalue, hlength]

/-- The bytes of a number become those of the next one, unless they were the greatest. -/
theorem increment?_ofNat {x : Nat} (hx : x < 256 ^ n) :
    (ofNat n x).increment? = if x + 1 < 256 ^ n then some (ofNat n (x + 1)) else none := by
  rcases (ofNat n x).increment?_cases with ⟨next, hnext, hvalue⟩ | ⟨hnext, hvalue⟩
  · rw [toNat_ofNat hx] at hvalue
    have hroom : x + 1 < 256 ^ n := hvalue ▸ next.toNat_lt
    rw [hnext, if_pos hroom, Option.some_inj]
    exact toNat_inj (hvalue.trans (toNat_ofNat hroom).symm)
  · rw [toNat_ofNat hx] at hvalue
    rw [hnext, if_neg (by omega)]

end Octets

/-! ## §2. Draws -/

/-- Block `k` of the stream of a seed. -/
def seedBlock (seed : Octets 32) (k : Nat) : Octets 32 :=
  Hash.sha256 (Bytes.ofText ("prng-" ++ toString k ++ "-") ++ seed.list)

theorem Bytes.ofText_append (s t : String) : ofText (s ++ t) = ofText s ++ ofText t := by
  simp [ofText, String.toUTF8]

namespace SeedStream

/-- The stream of a seed with `k` blocks drawn and nothing left over. -/
def reached (seed : Octets 32) (k : Nat) : SeedStream :=
  ⟨seed, UInt64.ofNat k, []⟩

theorem reached_zero (seed : Octets 32) : reached seed 0 = start seed := rfl

variable {seed : Octets 32} {k : Nat}

theorem toNat_counter (hk : k < UInt64.size) : (reached seed k).counter.toNat = k :=
  UInt64.toNat_ofNat_of_lt hk

theorem block_reached (hk : k < UInt64.size) : (reached seed k).block = seedBlock seed k := by
  rw [block, toNat_counter hk, seedBlock, Bytes.ofText_append, Bytes.ofText_append]
  simp [Hash.sha256Parts, reached]

theorem length_buffer_reached : (reached seed k).buffer.length < 32 :=
  Nat.zero_lt_succ 31

/-- A draw takes the next block as a whole. -/
theorem take_reached (hk : k + 1 < UInt64.size) :
    (reached seed k).take = some (seedBlock seed k, reached seed (k + 1)) := by
  have hcounter : (reached seed k).counter.toNat = k := toNat_counter (by omega)
  have hblock : (reached seed k).block = seedBlock seed k := block_reached (by omega)
  have hlength : (seedBlock seed k).list.length = 32 := (seedBlock seed k).length_eq
  have hnext : (reached seed k).counter + 1 = UInt64.ofNat (k + 1) := by
    simp [reached]
  -- One block fills the buffer, and the draw empties it.
  have hfill : (reached seed k).fill =
      some ⟨seed, UInt64.ofNat (k + 1), (seedBlock seed k).list⟩ := by
    rw [fill, if_pos length_buffer_reached, hcounter, if_pos hk, hblock, hnext, fill, if_neg]
    · rfl
    · exact Nat.not_lt.mpr hlength.ge
  have hdrawn : (seedBlock seed k).list.take 32 = (seedBlock seed k).list :=
    List.take_of_length_le hlength.le
  have hleft : (seedBlock seed k).list.drop 32 = [] := List.drop_of_length_le hlength.le
  rw [take, hfill]
  simp only [Option.bind_eq_bind, Option.bind_some, hdrawn, hleft, Octets.ofList?_list]
  rfl

/-- There is no number for a block after the last one. -/
theorem take_reached_last (hk : k + 1 = UInt64.size) : (reached seed k).take = none := by
  have hcounter : (reached seed k).counter.toNat = k := toNat_counter (by omega)
  have hfill : (reached seed k).fill = none := by
    rw [fill, if_pos length_buffer_reached, hcounter, if_neg (by omega)]
  rw [take, hfill]
  rfl

/-- A draw gives the next block and the stream behind it, and nothing else. -/
theorem take_reached_eq_some_iff {drawn : Octets 32} {rest : SeedStream} (hk : k < UInt64.size) :
    (reached seed k).take = some (drawn, rest) ↔
      k + 1 < UInt64.size ∧ seedBlock seed k = drawn ∧ reached seed (k + 1) = rest := by
  by_cases hnext : k + 1 < UInt64.size
  · rw [take_reached hnext, Option.some_inj, Prod.mk.injEq, and_iff_right hnext]
  · rw [take_reached_last (by omega)]
    exact iff_of_false nofun fun hdraw => hnext hdraw.1

/-- The draw that follows `k` other draws. -/
def draw : (k : Nat) → SeedStream → Option (Octets 32 × SeedStream)
  | 0, s => s.take
  | k + 1, s => s.take.bind fun (_, rest) => draw k rest

/-- **The draws are the blocks in their order**, and between two draws nothing is left over. -/
theorem draw_reached {j : Nat} (hj : j < UInt64.size) :
    draw k (reached seed j) =
      if j + k + 1 < UInt64.size then some (seedBlock seed (j + k), reached seed (j + k + 1))
      else none := by
  -- Each draw moves the stream on by one block.
  induction k generalizing j with
  | zero =>
    rw [draw]
    by_cases hnext : j + 1 < UInt64.size
    · rw [take_reached hnext, if_pos hnext]
      rfl
    · rw [take_reached_last (by omega), if_neg hnext]
  | succ k ih =>
    rw [draw]
    by_cases hnext : j + 1 < UInt64.size
    · have hsum : j + 1 + k = j + (k + 1) := by omega
      rw [take_reached hnext, Option.bind_some, ← hsum]
      exact ih hnext
    · rw [take_reached_last (by omega), if_neg (by omega)]
      rfl

theorem draw_start : draw k (start seed) =
    if k + 1 < UInt64.size then some (seedBlock seed k, reached seed (k + 1)) else none := by
  rw [← reached_zero, draw_reached (by decide), Nat.zero_add]

/-! ## §3. Sampling -/

variable {κ : Type} {accept : Octets 32 → Option κ} {key : κ}

/-- Sampling from a stream ends with a result after `k` rejected draws. -/
inductive SampledAfter (accept : Octets 32 → Option κ) : SeedStream → Nat → κ → Prop where
  | accepted {s rest : SeedStream} {drawn : Octets 32} {key : κ}
      (htake : s.take = some (drawn, rest)) (haccept : drawn.increment?.bind accept = some key) :
      SampledAfter accept s 0 key
  | rejected {s rest : SeedStream} {drawn : Octets 32} {key : κ} {k : Nat}
      (htake : s.take = some (drawn, rest)) (hreject : drawn.increment?.bind accept = none)
      (hrest : SampledAfter accept rest k key) : SampledAfter accept s (k + 1) key

/-- What sampling does with a draw. -/
theorem sample_of_take {s rest : SeedStream} {drawn : Octets 32}
    (htake : s.take = some (drawn, rest)) : s.sample accept =
      match drawn.increment?.bind accept with
      | some key => some key
      | none => rest.sample accept := by
  rw [sample]
  split
  · next hdrawn =>
    rw [htake] at hdrawn
    cases hdrawn
    rfl
  · next hnone =>
    rw [htake] at hnone
    cases hnone

/-- **Sampling gives what some run through rejected draws ends with.** -/
theorem sample_eq_some_iff {s : SeedStream} :
    s.sample accept = some key ↔ ∃ k, SampledAfter accept s k key := by
  constructor
  · intro hsample
    -- Every step of sampling is a step of the run: the draw is accepted or rejected.
    fun_induction sample accept s with
    | case1 s drawn rest htake key' haccept =>
      cases hsample
      exact ⟨0, .accepted htake haccept⟩
    | case2 s drawn rest htake hreject ih =>
      obtain ⟨k, hrest⟩ := ih hsample
      exact ⟨k + 1, .rejected htake hreject hrest⟩
    | case3 => cases hsample
  · rintro ⟨k, hrun⟩
    induction hrun with
    | accepted htake haccept => rw [sample_of_take htake, haccept]
    | rejected htake hreject _ ih => rw [sample_of_take htake, hreject, ih]

theorem sampledAfter_zero_iff {j : Nat} (hj : j < UInt64.size) :
    SampledAfter accept (reached seed j) 0 key ↔
      j + 1 < UInt64.size ∧ (seedBlock seed j).increment?.bind accept = some key := by
  constructor
  · intro hrun
    cases hrun with
    | accepted htake haccept =>
      obtain ⟨hnext, rfl, -⟩ := (take_reached_eq_some_iff hj).mp htake
      exact ⟨hnext, haccept⟩
  · rintro ⟨hnext, haccept⟩
    exact .accepted (take_reached hnext) haccept

/-- The next block is rejected, and the run goes on behind it. -/
theorem sampledAfter_succ_iff {j : Nat} (hj : j < UInt64.size) :
    SampledAfter accept (reached seed j) (k + 1) key ↔ j + 1 < UInt64.size ∧
      (seedBlock seed j).increment?.bind accept = none ∧
        SampledAfter accept (reached seed (j + 1)) k key := by
  constructor
  · intro hrun
    cases hrun with
    | rejected htake hreject hrest =>
      obtain ⟨hnext, rfl, rfl⟩ := (take_reached_eq_some_iff hj).mp htake
      exact ⟨hnext, hreject, hrest⟩
  · rintro ⟨hnext, hreject, hrest⟩
    exact .rejected (take_reached hnext) hreject hrest

/-- Sampling goes through the blocks in their order and ends at the first that is accepted. -/
theorem sampledAfter_reached_iff {j : Nat} (hj : j < UInt64.size) :
    SampledAfter accept (reached seed j) k key ↔ j + k + 1 < UInt64.size ∧
      (seedBlock seed (j + k)).increment?.bind accept = some key ∧
        ∀ i, j ≤ i → i < j + k → (seedBlock seed i).increment?.bind accept = none := by
  -- On the number of rejected draws; the first of them moves the stream to the next block.
  induction k generalizing j with
  | zero =>
    rw [sampledAfter_zero_iff hj]
    refine and_congr_right fun _ => (and_iff_left ?_).symm
    intro i hij hji
    omega
  | succ k ih =>
    have hsum : j + 1 + k = j + (k + 1) := by omega
    rw [sampledAfter_succ_iff hj]
    by_cases hnext : j + 1 < UInt64.size
    · rw [ih hnext, hsum]
      constructor
      · rintro ⟨-, hreject, hlt, haccept, hrejected⟩
        refine ⟨hlt, haccept, fun i hji hik => ?_⟩
        -- The block at `j` was rejected first, the others later.
        by_cases hfirst : i = j
        · rw [hfirst, hreject]
        · exact hrejected i (by omega) hik
      · rintro ⟨hlt, haccept, hrejected⟩
        have hreject := hrejected j (Nat.le_refl j) (by omega)
        exact ⟨hnext, hreject, hlt, haccept, fun i hji hik => hrejected i (by omega) hik⟩
    · exact iff_of_false (fun hrun => hnext hrun.1) fun hrun => hnext (by omega)

end SeedStream

/-! ## §4. Scalars -/

/-- Whether a number is a secret scalar of a curve. -/
def Admissible (c : Curve.Weierstrass) (n : Nat) : Prop :=
  1 ≤ n ∧ n < c.order

namespace SecretScalar

variable {c : Curve.Weierstrass} {seed : Octets 32} {s : SecretScalar c} {block : Octets 32}

/-- A scalar is known from its value. -/
theorem value_inj {s t : SecretScalar c} (heq : s.value = t.value) : s = t := by
  cases s
  cases t
  cases heq
  rfl

/-- A draw is accepted for the number that follows it. -/
theorem accepted_iff (horder : c.order ≤ 256 ^ 32) :
    (block.increment?.bind fun candidate => ofBytes? c candidate.list) = some s ↔
      block.toNat + 1 = s.value := by
  rcases block.increment?_cases with ⟨next, hnext, hvalue⟩ | ⟨hnext, hvalue⟩
  · have hlength : next.list.length = 32 := next.length_eq
    rw [hnext, Option.bind_some, ofBytes?_eq_some_iff, ← hvalue]
    exact ⟨fun hread => hread.2.2, fun hread => ⟨by omega, by omega, hread⟩⟩
  · -- The number after the greatest one is beyond the order.
    have hbelow := s.below
    rw [hnext, hvalue]
    exact iff_of_false nofun (by omega)

theorem rejected_iff (horder : c.order ≤ 256 ^ 32) :
    (block.increment?.bind fun candidate => ofBytes? c candidate.list) = none ↔
      ¬ Admissible c (block.toNat + 1) := by
  rw [Option.eq_none_iff_forall_not_mem, ← not_exists, not_iff_not]
  simp only [Option.mem_def, accepted_iff horder]
  constructor
  · rintro ⟨s, hvalue⟩
    rw [hvalue]
    exact ⟨s.positive, s.below⟩
  · rintro ⟨hpositive, hbelow⟩
    exact ⟨⟨_, hpositive, hbelow⟩, rfl⟩

/-- The scalar of a seed is drawn after `k` draws that gave none. -/
def DrawnAfter (c : Curve.Weierstrass) (seed : Octets 32) (k : Nat) (s : SecretScalar c) : Prop :=
  SeedStream.SampledAfter (fun candidate => ofBytes? c candidate.list) (SeedStream.start seed) k s

/-- The scalar is the number behind the first block for which there is one. -/
theorem drawnAfter_iff {k : Nat} (horder : c.order ≤ 256 ^ 32) :
    DrawnAfter c seed k s ↔ k + 1 < UInt64.size ∧ (seedBlock seed k).toNat + 1 = s.value ∧
      ∀ j < k, ¬ Admissible c ((seedBlock seed j).toNat + 1) := by
  rw [DrawnAfter, ← SeedStream.reached_zero, SeedStream.sampledAfter_reached_iff (by decide),
    Nat.zero_add, accepted_iff horder]
  simp only [Nat.zero_le, true_implies, rejected_iff horder]

end SecretScalar

namespace KeyPair

variable {keyType : KeyType} {c : Curve.Weierstrass} {seed : Octets 32}

/-- Both ECDSA schemes wrap the scalar that is drawn. -/
theorem exists_scalarScheme_ofSeed (hcurve : keyType.curve? = some c) (seed : Octets 32) :
    ∃ wrap, ScalarScheme keyType c wrap ∧
      ofSeed? keyType seed = (SecretScalar.ofSeed? c seed).map wrap := by
  cases keyType with
  | ed25519 => cases hcurve
  | secp256k1 =>
    cases hcurve
    exact ⟨_, scalarScheme_secp256k1, rfl⟩
  | secp256r1 =>
    cases hcurve
    exact ⟨_, scalarScheme_secp256r1, rfl⟩

/-- The key pair of a seed under an ECDSA scheme is that of the scalar that is drawn. -/
theorem ofSeed?_eq_some_iff (hcurve : keyType.curve? = some c) {pair : KeyPair} :
    ofSeed? keyType seed = some pair ↔ ∃ k s, SecretScalar.DrawnAfter c seed k s ∧
      pair.keyType = keyType ∧ pair.scalar? = some s.value := by
  obtain ⟨wrap, hscheme, hseed⟩ := exists_scalarScheme_ofSeed hcurve seed
  have hsample {s : SecretScalar c} :
      SecretScalar.ofSeed? c seed = some s ↔ ∃ k, SecretScalar.DrawnAfter c seed k s :=
    SeedStream.sample_eq_some_iff
  rw [hseed, Option.map_eq_some_iff]
  constructor
  · rintro ⟨s, hdrawn, rfl⟩
    obtain ⟨k, hdrawn⟩ := hsample.mp hdrawn
    exact ⟨k, s, hdrawn, hscheme.typed s, hscheme.scalar s⟩
  · rintro ⟨k, s, hdrawn, htype, hscalar⟩
    obtain ⟨other, rfl⟩ := hscheme.pairs pair htype
    rw [hscheme.scalar, Option.some_inj] at hscalar
    rw [SecretScalar.value_inj hscalar]
    exact ⟨s, hsample.mpr ⟨k, hdrawn⟩, rfl⟩

/-- What is drawn from a seed, and which draw its key pair is made of. -/
structure SamplesFirst (keyType : KeyType) (seed : Octets 32) : Prop where
  /-- The draws are the blocks in their order, for as long as there are numbers for them, and
  nothing is left in the buffer. -/
  draw : ∀ k, SeedStream.draw k (SeedStream.start seed) =
    if k + 1 < UInt64.size then some (seedBlock seed k, ⟨seed, UInt64.ofNat (k + 1), []⟩) else none
  increment : ∀ x < 256 ^ 32, (Octets.ofNat 32 x).increment? =
    if x + 1 < 256 ^ 32 then some (Octets.ofNat 32 (x + 1)) else none
  /-- A key pair that is returned was drawn after some number of rejected draws. -/
  returns : ∀ c, keyType.curve? = some c → ∀ pair, ofSeed? keyType seed = some pair ↔
    ∃ k s, SecretScalar.DrawnAfter c seed k s ∧ pair.keyType = keyType ∧
      pair.scalar? = some s.value
  /-- Its scalar is the number after that block, and no earlier block has a scalar after it. -/
  first : ∀ c, keyType.curve? = some c → ∀ k s, SecretScalar.DrawnAfter c seed k s →
    s.value = (seedBlock seed k).toNat + 1 ∧ Admissible c ((seedBlock seed k).toNat + 1) ∧
      ∀ j < k, ¬ Admissible c ((seedBlock seed j).toNat + 1)
  /-- There is a key pair if there is a scalar after any of the blocks. -/
  found : ∀ c, keyType.curve? = some c → ∀ k, k + 1 < UInt64.size →
    Admissible c ((seedBlock seed k).toNat + 1) → ∃ pair, ofSeed? keyType seed = some pair
  answers : ∀ pair, ofSeed? keyType seed = some pair → ofSeed keyType seed = pair

theorem exists_drawn (hcurve : keyType.curve? = some c) {k : Nat} (hk : k + 1 < UInt64.size)
    (hscalar : Admissible c ((seedBlock seed k).toNat + 1)) :
    ∃ pair, ofSeed? keyType seed = some pair := by
  obtain ⟨wrap, hscheme⟩ := exists_scalarScheme hcurve
  classical
  -- The least block with a scalar after it is the one that is taken.
  have hex : ∃ j, Admissible c ((seedBlock seed j).toNat + 1) := ⟨k, hscalar⟩
  have hfirst : Nat.find hex ≤ k := Nat.find_min' hex hscalar
  obtain ⟨hpositive, hbelow⟩ := Nat.find_spec hex
  have hdrawn : SecretScalar.DrawnAfter c seed (Nat.find hex) ⟨_, hpositive, hbelow⟩ :=
    (SecretScalar.drawnAfter_iff hscheme.order.2).mpr
      ⟨by omega, rfl, fun j hj => Nat.find_min hex hj⟩
  refine ⟨wrap ⟨_, hpositive, hbelow⟩, (ofSeed?_eq_some_iff hcurve).mpr ?_⟩
  exact ⟨_, _, hdrawn, hscheme.typed _, hscheme.scalar _⟩

/-- **The key pair of a seed is made of the first block of its stream that has a scalar after it.** -/
theorem samples_first (keyType : KeyType) (seed : Octets 32) : SamplesFirst keyType seed := by
  constructor
  case draw => exact fun k => SeedStream.draw_start
  case increment => exact fun x hx => Octets.increment?_ofNat hx
  case returns => exact fun c hcurve pair => ofSeed?_eq_some_iff hcurve
  case first =>
    intro c hcurve k s hdrawn
    obtain ⟨wrap, hscheme⟩ := exists_scalarScheme hcurve
    obtain ⟨-, hvalue, hrejected⟩ := (SecretScalar.drawnAfter_iff hscheme.order.2).mp hdrawn
    rw [hvalue]
    exact ⟨rfl, ⟨s.positive, s.below⟩, hrejected⟩
  case found => exact fun c hcurve k hk hscalar => exists_drawn hcurve hk hscalar
  case answers =>
    intro pair hpair
    unfold ofSeed
    rw [hpair, Option.getD_some]

/-- A seed whose first block has a scalar after it already. -/
example : (SecretScalar.ofSeed? .secp256r1 (Octets.ofNat 32 7)).map SecretScalar.value =
    some ((seedBlock (Octets.ofNat 32 7) 0).toNat + 1) := by
  decide +kernel

end KeyPair

end Wallet
