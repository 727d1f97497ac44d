/-!
# Byte strings

Everything the wallet hashes, signs or renders as text is a list of bytes. This file holds the
two readings of a number as bytes (most or least significant byte first), the reading of bytes
as a number, and byte strings of a fixed length.

* `bigEndian w v` always has length `w`, and `Bytes.toNat` undoes it for `v < 256 ^ w`.
* `Octets n` is a byte string together with the fact that it has length `n`: digests, keys,
  addresses and signatures carry their length in their type.
-/

namespace Wallet

/-- A byte string. -/
abbrev Bytes := List UInt8

/-! ## §1. Numbers as bytes -/

/-- The `width` lowest base-256 digits of a number, most significant first. -/
def bigEndian : (width : Nat) → (value : Nat) → Bytes
  | 0, _ => []
  | width + 1, value => UInt8.ofNat (value / Nat.pow 256 width) :: bigEndian width value

/-- The `width` lowest base-256 digits of a number, least significant first. -/
def littleEndian : (width : Nat) → (value : Nat) → Bytes
  | 0, _ => []
  | width + 1, value => UInt8.ofNat value :: littleEndian width (value / 256)

/-- The number whose base-256 digits are the given bytes, most significant first. -/
def Bytes.toNat (bytes : Bytes) : Nat :=
  bytes.foldl (fun value byte => value * 256 + byte.toNat) 0

/-- The number whose base-256 digits are the given bytes, least significant first. -/
def Bytes.toNatLittle (bytes : Bytes) : Nat :=
  Bytes.toNat bytes.reverse

@[simp] theorem length_bigEndian (width value : Nat) :
    (bigEndian width value).length = width := by
  induction width with
  | zero => rfl
  | succ width ih => simp [bigEndian, ih]

@[simp] theorem length_littleEndian (width value : Nat) :
    (littleEndian width value).length = width := by
  induction width generalizing value with
  | zero => rfl
  | succ width ih => simp [littleEndian, ih]

/-- The bytes of a text in UTF-8. -/
def Bytes.ofText (text : String) : Bytes :=
  text.toUTF8.data.toList

/-! ## §2. Byte strings of a fixed length -/

/-- A byte string of length `n`. -/
structure Octets (n : Nat) where
  list : Bytes
  length_eq : list.length = n
  deriving DecidableEq

namespace Octets

/-- Read a byte string as one of length `n`, if it has that length. -/
def ofList? (n : Nat) (list : Bytes) : Option (Octets n) :=
  if h : list.length = n then some ⟨list, h⟩ else none

/-- A number as `n` bytes, most significant first. -/
def ofNat (n value : Nat) : Octets n :=
  ⟨bigEndian n value, length_bigEndian n value⟩

/-- The number that the bytes spell, most significant first. -/
def toNat {n : Nat} (octets : Octets n) : Nat :=
  Bytes.toNat octets.list

/-- Two byte strings of one length after each other. -/
def append {m n : Nat} (first : Octets m) (second : Octets n) : Octets (m + n) :=
  ⟨first.list ++ second.list, by simp [first.length_eq, second.length_eq]⟩

theorem ofList?_list {n : Nat} (octets : Octets n) : ofList? n octets.list = some octets := by
  simp [ofList?, octets.length_eq]

theorem list_of_ofList? {n : Nat} {list : Bytes} {octets : Octets n}
    (h : ofList? n list = some octets) : octets.list = list := by
  unfold ofList? at h
  split at h
  · cases h; rfl
  · cases h

end Octets

end Wallet
