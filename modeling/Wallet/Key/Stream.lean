import Wallet.Hash.Chain

/-!
# The stream of a seed

A seed starts a stream of bytes, which is made of SHA-256 blocks that are numbered from zero. From
it 32 bytes are drawn at a time, read as a number, and one is added: that is a candidate, and
`sample` takes the first candidate that will do.

Blocks are numbered with 64 bits. A stream that has used up its numbers has nothing left to draw,
and sampling then ends without a result.
-/

namespace Wallet

/-! ## §1. One more -/

/-- Add one to a numeral of bytes, least significant byte first. A byte that is full becomes zero
and carries; a carry out of the last byte is an overflow. -/
def Bytes.incrementLittle? : Bytes → Option Bytes
  | [] => none
  | byte :: rest =>
    let next := byte + 1
    if byte.toNat + 1 < UInt8.size then some (next :: rest)
    else (incrementLittle? rest).map fun carried => next :: carried

/-- The number after a number, in as many bytes, most significant byte first. -/
def Octets.increment? {n : Nat} (number : Octets n) : Option (Octets n) := do
  let incremented ← Bytes.incrementLittle? number.list.reverse
  Octets.ofList? n incremented.reverse

/-! ## §2. The stream -/

/-- A stream: the seed, the number of the next block, and bytes that were not drawn yet. -/
structure SeedStream where
  seed : Octets 32
  counter : UInt64
  buffer : Bytes

namespace SeedStream

/-- The stream that a seed starts. -/
def start (seed : Octets 32) : SeedStream :=
  ⟨seed, 0, []⟩

/-- The next block. -/
def block (s : SeedStream) : Octets 32 :=
  Hash.sha256Parts
    [Bytes.ofText "prng-", Bytes.ofText (toString s.counter.toNat), Bytes.ofText "-", s.seed.list]

/-- Add blocks until there are 32 bytes, as long as there are numbers for them. -/
def fill (s : SeedStream) : Option SeedStream :=
  if s.buffer.length < 32 then
    if s.counter.toNat + 1 < UInt64.size then
      fill { s with counter := s.counter + 1, buffer := s.buffer ++ s.block.list }
    else none
  else some s
termination_by 32 - s.buffer.length
decreasing_by
  simp only [List.length_append, s.block.length_eq]
  omega

/-- Draw 32 bytes. -/
def take (s : SeedStream) : Option (Octets 32 × SeedStream) := do
  let full ← s.fill
  let drawn ← Octets.ofList? 32 (full.buffer.take 32)
  return (drawn, { full with buffer := full.buffer.drop 32 })

/-- The number of bytes that a stream has left. -/
def remaining (s : SeedStream) : Nat :=
  s.buffer.length + 32 * (UInt64.size - s.counter.toNat)

theorem remaining_fill {s full : SeedStream} (hfill : s.fill = some full) :
    full.remaining = s.remaining := by
  -- A block is 32 bytes more in the buffer, and 32 bytes less behind the counter.
  fun_induction fill s with
  | case1 s _ hcounter ih =>
    have hnext : (s.counter + 1).toNat = s.counter.toNat + 1 := by
      rw [UInt64.toNat_add, UInt64.toNat_one, Nat.mod_eq_of_lt hcounter]
    rw [ih hfill]
    simp only [remaining, List.length_append, s.block.length_eq, hnext]
    omega
  | case2 => cases hfill
  | case3 => cases hfill; rfl

theorem remaining_take {s rest : SeedStream} {drawn : Octets 32}
    (htake : s.take = some (drawn, rest)) : rest.remaining < s.remaining := by
  simp only [take, Option.bind_eq_bind, Option.bind_eq_some_iff, Option.pure_def, Option.some.injEq,
    Prod.mk.injEq] at htake
  obtain ⟨full, hfill, bytes, hbytes, -, rfl⟩ := htake
  have hlength : (full.buffer.take 32).length = 32 := by
    rw [← Octets.list_of_ofList? hbytes, bytes.length_eq]
  have hremaining := remaining_fill hfill
  simp only [remaining, List.length_take, List.length_drop] at *
  omega

/-- The first candidate that is accepted. -/
def sample {κ : Type} (accept : Octets 32 → Option κ) (s : SeedStream) : Option κ :=
  match _htake : s.take with
  | some (drawn, rest) =>
    -- Nothing comes after the greatest number, so it is passed over like a candidate that will not
    -- do.
    match drawn.increment?.bind accept with
    | some key => some key
    | none => sample accept rest
  | none => none
termination_by s.remaining
decreasing_by exact remaining_take _htake

end SeedStream

end Wallet
