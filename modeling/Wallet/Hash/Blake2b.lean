import Wallet.Bytes

/-!
# BLAKE2b with a 32-byte digest

The working state is a square of four rows of four words. A round mixes the four columns at
once, turns the rows so that diagonals become columns, mixes again and turns back. Rows are
structures of four words, so that the digest has its length by construction.
-/

namespace Wallet.Hash.Blake2b

/-! ## §1. Rows -/

/-- Four words side by side. -/
structure Row where
  (x y z w : UInt64)

namespace Row

def add (p q : Row) : Row := ⟨p.x + q.x, p.y + q.y, p.z + q.z, p.w + q.w⟩

def xor (p q : Row) : Row := ⟨p.x ^^^ q.x, p.y ^^^ q.y, p.z ^^^ q.z, p.w ^^^ q.w⟩

/-- Rotate every word right by `n` bits. -/
def rotate (n : UInt64) (p : Row) : Row :=
  let turn := fun (x : UInt64) => (x >>> n) ||| (x <<< (64 - n))
  ⟨turn p.x, turn p.y, turn p.z, turn p.w⟩

/-- Move every word one place to the left. -/
def left (p : Row) : Row := ⟨p.y, p.z, p.w, p.x⟩

/-- The words as bytes, each least significant byte first. -/
def toBytes (p : Row) : Bytes :=
  [p.x, p.y, p.z, p.w].flatMap fun word => littleEndian 8 word.toNat

theorem length_toBytes (p : Row) : p.toBytes.length = 32 := by
  simp [toBytes]

end Row

/-- The working state. -/
structure Square where
  (a b c d : Row)

/-- The eight words carried from block to block. -/
structure Chain where
  (top bottom : Row)

/-! ## §2. Rounds -/

/-- First half of the mixing function, with one message word per column. -/
def mixHalf (s : Square) (message : Row) (turnD turnB : UInt64) : Square :=
  let a := (s.a.add s.b).add message
  let d := (s.d.xor a).rotate turnD
  let c := s.c.add d
  { a := a, b := (s.b.xor c).rotate turnB, c := c, d := d }

/-- Mix the four columns. -/
def mix (s : Square) (first second : Row) : Square :=
  mixHalf (mixHalf s first 32 24) second 16 63

/-- Turn the rows so that the diagonals stand in columns. -/
def Square.diagonals (s : Square) : Square :=
  { s with b := s.b.left, c := s.c.left.left, d := s.d.left.left.left }

/-- Undo `diagonals`. -/
def Square.columns (s : Square) : Square :=
  { s with b := s.b.left.left.left, c := s.c.left.left, d := s.d.left }

/-- The order in which each of the twelve rounds takes the sixteen message words. -/
def orders : List (List Nat) := [
    [0, 1, 2, 3, 4, 5, 6, 7, 8, 9, 10, 11, 12, 13, 14, 15],
    [14, 10, 4, 8, 9, 15, 13, 6, 1, 12, 0, 2, 11, 7, 5, 3],
    [11, 8, 12, 0, 5, 2, 15, 13, 10, 14, 3, 6, 7, 1, 9, 4],
    [7, 9, 3, 1, 13, 12, 11, 14, 2, 6, 5, 10, 4, 0, 15, 8],
    [9, 0, 5, 7, 2, 4, 10, 15, 14, 1, 11, 12, 6, 8, 3, 13],
    [2, 12, 6, 10, 0, 11, 8, 3, 4, 13, 7, 5, 15, 14, 1, 9],
    [12, 5, 1, 15, 14, 13, 4, 10, 0, 7, 6, 3, 9, 2, 8, 11],
    [13, 11, 7, 14, 12, 1, 3, 9, 5, 0, 15, 4, 8, 6, 2, 10],
    [6, 15, 14, 9, 11, 3, 0, 8, 12, 2, 13, 7, 1, 4, 10, 5],
    [10, 2, 8, 4, 7, 6, 1, 5, 15, 11, 9, 14, 3, 12, 13, 0],
    [0, 1, 2, 3, 4, 5, 6, 7, 8, 9, 10, 11, 12, 13, 14, 15],
    [14, 10, 4, 8, 9, 15, 13, 6, 1, 12, 0, 2, 11, 7, 5, 3]]

/-- One round: columns with the first eight words of its order, diagonals with the others. -/
def round (words : List UInt64) (s : Square) (order : List Nat) : Square :=
  let pick := fun i => words.getD (order.getD i 0) 0
  let s := mix s ⟨pick 0, pick 2, pick 4, pick 6⟩ ⟨pick 1, pick 3, pick 5, pick 7⟩
  let s := mix s.diagonals ⟨pick 8, pick 10, pick 12, pick 14⟩
    ⟨pick 9, pick 11, pick 13, pick 15⟩
  s.columns

/-! ## §3. Blocks -/

/-- The fixed words that fill the lower half of the state, and the chain before it is keyed. -/
def seedTop : Row :=
  ⟨0x6a09e667f3bcc908, 0xbb67ae8584caa73b, 0x3c6ef372fe94f82b, 0xa54ff53a5f1d36f1⟩

def seedBottom : Row :=
  ⟨0x510e527fade682d1, 0x9b05688c2b3e6c1f, 0x1f83d9abfb41bd6b, 0x5be0cd19137e2179⟩

/-- The chain before the first block: digest length 32, no key, one leaf. -/
def start : Chain :=
  ⟨{ seedTop with x := seedTop.x ^^^ 0x01010020 }, seedBottom⟩

/-- The first `count` words spelled by a byte string, least significant byte first. -/
def readWords : (count : Nat) → Bytes → List UInt64
  | 0, _ => []
  | count + 1, bytes =>
    UInt64.ofNat (Bytes.toNatLittle (bytes.take 8)) :: readWords count (bytes.drop 8)

/-- Stir one block into the chain. `taken` counts the message bytes up to its end. -/
def compress (chain : Chain) (block : Bytes) (taken : Nat) (last : Bool) : Chain :=
  let counter : Row := ⟨UInt64.ofNat taken, UInt64.ofNat (taken / UInt64.size),
    if last then 0xffffffffffffffff else 0, 0⟩
  let before : Square := ⟨chain.top, chain.bottom, seedTop, seedBottom.xor counter⟩
  let after := orders.foldl (round (readWords 16 block)) before
  ⟨(chain.top.xor after.a).xor after.c, (chain.bottom.xor after.b).xor after.d⟩

/-- Stir `count` whole blocks and then the rest, which is filled up with zeros. -/
def absorb : (count : Nat) → Chain → (taken : Nat) → Bytes → Chain
  | 0, chain, taken, rest =>
    compress chain (rest ++ List.replicate (128 - rest.length) 0) (taken + rest.length) true
  | count + 1, chain, taken, bytes =>
    absorb count (compress chain (bytes.take 128) (taken + 128) false) (taken + 128)
      (bytes.drop 128)

end Wallet.Hash.Blake2b

namespace Wallet.Hash

/-- BLAKE2b with a digest of 32 bytes. -/
def blake2b256 (message : Bytes) : Octets 32 :=
  -- The last block is apart from the others and is not empty, unless the message is.
  ⟨(Blake2b.absorb ((message.length - 1) / 128) Blake2b.start 0 message).top.toBytes,
    Blake2b.Row.length_toBytes _⟩

end Wallet.Hash
