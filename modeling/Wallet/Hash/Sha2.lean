import Wallet.Bytes

/-!
# The SHA-2 family

SHA-256 and SHA-512 are one construction over words of 32 or 64 bits: the message is padded to
whole blocks of sixteen words, each block is stretched to one word per round, and the rounds
stir these words into a chaining value of eight words. `Family` holds what differs between the
two; the construction itself is written once.

The chaining value is a structure of eight words, so a digest has its length by construction
(`length_sha256`, `length_sha512`).
-/

namespace Wallet.Hash.Sha2

/-! ## §1. Words -/

/-- What a word size has to offer: arithmetic, the four mixing functions, and bytes. -/
structure Family (W : Type) where
  /-- Bytes in a word. -/
  wordBytes : Nat
  add : W → W → W
  and : W → W → W
  xor : W → W → W
  not : W → W
  /-- The two functions that stir the chaining value. -/
  big0 : W → W
  big1 : W → W
  /-- The two functions that stretch the block. -/
  small0 : W → W
  small1 : W → W
  /-- A word from its value, which is read modulo the word size. -/
  ofNat : Nat → W
  toNat : W → Nat
  /-- One constant per round. -/
  constants : List W

def rotate32 (x : UInt32) (n : UInt32) : UInt32 :=
  (x >>> n) ||| (x <<< (32 - n))

def rotate64 (x : UInt64) (n : UInt64) : UInt64 :=
  (x >>> n) ||| (x <<< (64 - n))

/-- Words of 32 bits, 64 rounds. -/
def words32 : Family UInt32 where
  wordBytes := 4
  add := (· + ·)
  and := (· &&& ·)
  xor := (· ^^^ ·)
  not := fun x => x ^^^ 0xffffffff
  big0 := fun x => rotate32 x 2 ^^^ rotate32 x 13 ^^^ rotate32 x 22
  big1 := fun x => rotate32 x 6 ^^^ rotate32 x 11 ^^^ rotate32 x 25
  small0 := fun x => rotate32 x 7 ^^^ rotate32 x 18 ^^^ (x >>> 3)
  small1 := fun x => rotate32 x 17 ^^^ rotate32 x 19 ^^^ (x >>> 10)
  ofNat := UInt32.ofNat
  toNat := UInt32.toNat
  constants := [
    0x428a2f98, 0x71374491, 0xb5c0fbcf, 0xe9b5dba5, 0x3956c25b, 0x59f111f1, 0x923f82a4, 0xab1c5ed5,
    0xd807aa98, 0x12835b01, 0x243185be, 0x550c7dc3, 0x72be5d74, 0x80deb1fe, 0x9bdc06a7, 0xc19bf174,
    0xe49b69c1, 0xefbe4786, 0x0fc19dc6, 0x240ca1cc, 0x2de92c6f, 0x4a7484aa, 0x5cb0a9dc, 0x76f988da,
    0x983e5152, 0xa831c66d, 0xb00327c8, 0xbf597fc7, 0xc6e00bf3, 0xd5a79147, 0x06ca6351, 0x14292967,
    0x27b70a85, 0x2e1b2138, 0x4d2c6dfc, 0x53380d13, 0x650a7354, 0x766a0abb, 0x81c2c92e, 0x92722c85,
    0xa2bfe8a1, 0xa81a664b, 0xc24b8b70, 0xc76c51a3, 0xd192e819, 0xd6990624, 0xf40e3585, 0x106aa070,
    0x19a4c116, 0x1e376c08, 0x2748774c, 0x34b0bcb5, 0x391c0cb3, 0x4ed8aa4a, 0x5b9cca4f, 0x682e6ff3,
    0x748f82ee, 0x78a5636f, 0x84c87814, 0x8cc70208, 0x90befffa, 0xa4506ceb, 0xbef9a3f7, 0xc67178f2]

/-- Words of 64 bits, 80 rounds. -/
def words64 : Family UInt64 where
  wordBytes := 8
  add := (· + ·)
  and := (· &&& ·)
  xor := (· ^^^ ·)
  not := fun x => x ^^^ 0xffffffffffffffff
  big0 := fun x => rotate64 x 28 ^^^ rotate64 x 34 ^^^ rotate64 x 39
  big1 := fun x => rotate64 x 14 ^^^ rotate64 x 18 ^^^ rotate64 x 41
  small0 := fun x => rotate64 x 1 ^^^ rotate64 x 8 ^^^ (x >>> 7)
  small1 := fun x => rotate64 x 19 ^^^ rotate64 x 61 ^^^ (x >>> 6)
  ofNat := UInt64.ofNat
  toNat := UInt64.toNat
  constants := [
    0x428a2f98d728ae22, 0x7137449123ef65cd, 0xb5c0fbcfec4d3b2f, 0xe9b5dba58189dbbc,
    0x3956c25bf348b538, 0x59f111f1b605d019, 0x923f82a4af194f9b, 0xab1c5ed5da6d8118,
    0xd807aa98a3030242, 0x12835b0145706fbe, 0x243185be4ee4b28c, 0x550c7dc3d5ffb4e2,
    0x72be5d74f27b896f, 0x80deb1fe3b1696b1, 0x9bdc06a725c71235, 0xc19bf174cf692694,
    0xe49b69c19ef14ad2, 0xefbe4786384f25e3, 0x0fc19dc68b8cd5b5, 0x240ca1cc77ac9c65,
    0x2de92c6f592b0275, 0x4a7484aa6ea6e483, 0x5cb0a9dcbd41fbd4, 0x76f988da831153b5,
    0x983e5152ee66dfab, 0xa831c66d2db43210, 0xb00327c898fb213f, 0xbf597fc7beef0ee4,
    0xc6e00bf33da88fc2, 0xd5a79147930aa725, 0x06ca6351e003826f, 0x142929670a0e6e70,
    0x27b70a8546d22ffc, 0x2e1b21385c26c926, 0x4d2c6dfc5ac42aed, 0x53380d139d95b3df,
    0x650a73548baf63de, 0x766a0abb3c77b2a8, 0x81c2c92e47edaee6, 0x92722c851482353b,
    0xa2bfe8a14cf10364, 0xa81a664bbc423001, 0xc24b8b70d0f89791, 0xc76c51a30654be30,
    0xd192e819d6ef5218, 0xd69906245565a910, 0xf40e35855771202a, 0x106aa07032bbd1b8,
    0x19a4c116b8d2d0c8, 0x1e376c085141ab53, 0x2748774cdf8eeb99, 0x34b0bcb5e19b48a8,
    0x391c0cb3c5c95a63, 0x4ed8aa4ae3418acb, 0x5b9cca4f7763e373, 0x682e6ff3d6b2b8a3,
    0x748f82ee5defb2fc, 0x78a5636f43172f60, 0x84c87814a1f0ab72, 0x8cc702081a6439ec,
    0x90befffa23631e28, 0xa4506cebde82bde9, 0xbef9a3f7b2c67915, 0xc67178f2e372532b,
    0xca273eceea26619c, 0xd186b8c721c0c207, 0xeada7dd6cde0eb1e, 0xf57d4f7fee6ed178,
    0x06f067aa72176fba, 0x0a637dc5a2c898a6, 0x113f9804bef90dae, 0x1b710b35131c471b,
    0x28db77f523047d84, 0x32caab7b40c72493, 0x3c9ebe0a15c9bebc, 0x431d67c49c100d4c,
    0x4cc5d4becb3e42b6, 0x597f299cfc657e2a, 0x5fcb6fab3ad6faec, 0x6c44198c4a475817]

/-! ## §2. Chaining value -/

/-- The eight words that the rounds stir. -/
structure State (W : Type) where
  (a b c d e f g h : W)

/-- The chaining value before the first block of SHA-256. -/
def start32 : State UInt32 :=
  ⟨0x6a09e667, 0xbb67ae85, 0x3c6ef372, 0xa54ff53a,
    0x510e527f, 0x9b05688c, 0x1f83d9ab, 0x5be0cd19⟩

/-- The chaining value before the first block of SHA-512. -/
def start64 : State UInt64 :=
  ⟨0x6a09e667f3bcc908, 0xbb67ae8584caa73b, 0x3c6ef372fe94f82b, 0xa54ff53a5f1d36f1,
    0x510e527fade682d1, 0x9b05688c2b3e6c1f, 0x1f83d9abfb41bd6b, 0x5be0cd19137e2179⟩

variable {W : Type}

/-- One round with its constant and its schedule word, both already added. -/
@[specialize] def step (w : Family W) (s : State W) (input : W) : State W :=
  let choice := w.xor (w.and s.e s.f) (w.and (w.not s.e) s.g)
  let majority := w.xor (w.xor (w.and s.a s.b) (w.and s.a s.c)) (w.and s.b s.c)
  let t := w.add (w.add s.h (w.big1 s.e)) (w.add choice input)
  { a := w.add t (w.add (w.big0 s.a) majority), b := s.a, c := s.b, d := s.c,
    e := w.add s.d t, f := s.e, g := s.f, h := s.g }

/-- Word by word sum of two chaining values. -/
@[specialize] def State.add (w : Family W) (s t : State W) : State W :=
  ⟨w.add s.a t.a, w.add s.b t.b, w.add s.c t.c, w.add s.d t.d,
    w.add s.e t.e, w.add s.f t.f, w.add s.g t.g, w.add s.h t.h⟩

/-! ## §3. Blocks -/

/-- The first `count` words spelled by a byte string. -/
@[specialize] def readWords (w : Family W) : (count : Nat) → Bytes → List W
  | 0, _ => []
  | count + 1, bytes =>
    w.ofNat (Bytes.toNat (bytes.take w.wordBytes)) ::
      readWords w count (bytes.drop w.wordBytes)

/-- Add `count` words to a schedule whose latest word comes first. -/
@[specialize] def stretch (w : Family W) : (count : Nat) → List W → List W
  | 0, latest => latest
  | count + 1, latest =>
    let at_ := fun i => latest.getD i (w.ofNat 0)
    stretch w count
      (w.add (w.add (w.small1 (at_ 1)) (at_ 6)) (w.add (w.small0 (at_ 14)) (at_ 15)) :: latest)

/-- One schedule word per round. -/
@[specialize] def schedule (w : Family W) (block : Bytes) : List W :=
  (stretch w (w.constants.length - 16) (readWords w 16 block).reverse).reverse

/-- Stir one block of sixteen words into the chaining value. -/
@[specialize] def compress (w : Family W) (s : State W) (block : Bytes) : State W :=
  s.add w ((List.zipWith w.add w.constants (schedule w block)).foldl (step w) s)

/-- Stir `count` blocks. -/
@[specialize] def absorb (w : Family W) : (count : Nat) → State W → Bytes → State W
  | 0, s, _ => s
  | count + 1, s, bytes =>
    absorb w count (compress w s (bytes.take (16 * w.wordBytes))) (bytes.drop (16 * w.wordBytes))

/-- Zero bytes between the closing bit and the length that ends the last block. -/
def paddingZeros (wordBytes length : Nat) : Nat :=
  let block := 16 * wordBytes
  (block - (length + 1 + 2 * wordBytes) % block) % block

/-- The message, the closing one bit, zeros, and the length in bits as a double word. -/
def pad (wordBytes : Nat) (message : Bytes) : Bytes :=
  message ++ 0x80 :: (List.replicate (paddingZeros wordBytes message.length) 0 ++
    bigEndian (2 * wordBytes) (8 * message.length))

/-- The eight words of the chaining value as bytes. -/
@[specialize] def State.toBytes (w : Family W) (s : State W) : Bytes :=
  [s.a, s.b, s.c, s.d, s.e, s.f, s.g, s.h].flatMap fun x => bigEndian w.wordBytes (w.toNat x)

theorem State.length_toBytes (w : Family W) (s : State W) :
    (s.toBytes w).length = 8 * w.wordBytes := by
  simp [State.toBytes]
  omega

/-- The digest of a message from a given start. -/
@[specialize] def digest (w : Family W) (start : State W) (message : Bytes) : Bytes :=
  let padded := pad w.wordBytes message
  (absorb w (padded.length / (16 * w.wordBytes)) start padded).toBytes w

end Wallet.Hash.Sha2

namespace Wallet.Hash

/-- SHA-256. -/
def sha256 (message : Bytes) : Octets 32 :=
  ⟨Sha2.digest Sha2.words32 Sha2.start32 message, Sha2.State.length_toBytes _ _⟩

/-- SHA-512. -/
def sha512 (message : Bytes) : Octets 64 :=
  ⟨Sha2.digest Sha2.words64 Sha2.start64 message, Sha2.State.length_toBytes _ _⟩

end Wallet.Hash
