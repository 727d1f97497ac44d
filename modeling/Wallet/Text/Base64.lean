import Wallet.Bytes

/-!
# Base64

Scripts travel as standard base64 with required padding. Reading is strict: padding must be
complete and the unused bits of the last symbol must be zero, so every byte string has one
accepted text.

The groups before the last hold four symbols each. The last group holds one to four bytes of
text and is where padding may stand; `Error` lists what can be wrong, with the byte offset.
-/

namespace Wallet.Base64

/-- The 64 symbols in the order of their values. -/
def alphabet : Bytes :=
  Bytes.ofText "ABCDEFGHIJKLMNOPQRSTUVWXYZabcdefghijklmnopqrstuvwxyz0123456789+/"

/-- The symbol of a six-bit value. -/
def symbol (sextet : Nat) : UInt8 :=
  alphabet.getD sextet 65

/-- The six-bit value of a symbol. -/
def sextet? (symbol : UInt8) : Option Nat :=
  alphabet.idxOf? symbol

/-- The padding byte `=`. -/
def padding : UInt8 := 61

/-- Why a text is not base64. -/
inductive Error where
  | invalidSymbol (symbol : UInt8) (offset : Nat)
  | invalidLength (length : Nat)
  | invalidPadding
  | invalidLastSymbol (symbol : UInt8) (offset : Nat)
  deriving DecidableEq

def Error.message : Error → String
  | .invalidSymbol symbol offset => s!"Invalid symbol {symbol.toNat}, offset {offset}."
  | .invalidLength length => s!"Invalid input length: {length}"
  | .invalidPadding => "Invalid padding"
  | .invalidLastSymbol symbol offset => s!"Invalid last symbol {symbol.toNat}, offset {offset}."

/-! ## §1. Writing -/

/-- The base64 bytes of a byte string. -/
def encodeBytes : Bytes → Bytes
  | a :: b :: c :: rest =>
    let n := a.toNat * 65536 + b.toNat * 256 + c.toNat
    symbol (n / 262144) :: symbol (n / 4096 % 64) :: symbol (n / 64 % 64) :: symbol (n % 64) ::
      encodeBytes rest
  | [a, b] =>
    let n := a.toNat * 256 + b.toNat
    [symbol (n / 1024), symbol (n / 16 % 64), symbol (n % 16 * 4), padding]
  | [a] => [symbol (a.toNat / 4), symbol (a.toNat % 4 * 16), padding, padding]
  | [] => []

/-- The base64 text of a byte string. -/
def encode (bytes : Bytes) : String :=
  String.ofList ((encodeBytes bytes).map fun byte => Char.ofNat byte.toNat)

/-! ## §2. Reading -/

/-- Read one symbol at an offset. -/
def readSymbol (symbol : UInt8) (offset : Nat) : Except Error Nat :=
  match sextet? symbol with
  | some sextet => .ok sextet
  | none => .error (.invalidSymbol symbol offset)

/-- Read the last group: the six-bit values of its symbols, latest first, and the number of
padding bytes after them. `start` is the offset of the group. -/
def readLast (start : Nat) : (index : Nat) → (sextets : List Nat) → (pads : Nat) → Bytes →
    Except Error (List Nat × Nat)
  | _, sextets, pads, [] => .ok (sextets, pads)
  | index, sextets, pads, byte :: rest =>
    if byte = padding then
      -- Two symbols make the first byte, so padding can stand for the other two only.
      if index < 2 then .error (.invalidSymbol padding (start + index))
      else readLast start (index + 1) sextets (pads + 1) rest
    -- A symbol behind padding; what is reported is the padding in front of it.
    else if 0 < pads then .error (.invalidSymbol padding (start + sextets.length))
    else do
      let sextet ← readSymbol byte (start + index)
      readLast start (index + 1) (sextet :: sextets) pads rest

/-- The bytes of the last group, whose symbols have been read. -/
def closeLast (start : Nat) (group : Bytes) (sextets : List Nat) (pads : Nat) :
    Except Error Bytes :=
  if sextets.length < 2 then .error (.invalidLength (start + sextets.length))
  else if (sextets.length + pads) % 4 ≠ 0 then .error .invalidPadding
  else match sextets with
    | [q, p] =>
      if q % 16 = 0 then .ok [UInt8.ofNat (p * 4 + q / 16)]
      else .error (.invalidLastSymbol (group.getD 1 0) (start + 1))
    | [r, q, p] =>
      if r % 4 = 0 then
        let n := p * 1024 + q * 16 + r / 4
        .ok [UInt8.ofNat (n / 256), UInt8.ofNat n]
      else .error (.invalidLastSymbol (group.getD 2 0) (start + 2))
    | [s, r, q, p] =>
      let n := p * 262144 + q * 4096 + r * 64 + s
      .ok [UInt8.ofNat (n / 65536), UInt8.ofNat (n / 256), UInt8.ofNat n]
    | _ => .ok []

/-- Read groups in front of which `done`, latest byte first, has been read. -/
def decodeGroups (start : Nat) (done : Bytes) : Bytes → Except Error Bytes
  | a :: b :: c :: d :: e :: rest => do
    let p ← readSymbol a start
    let q ← readSymbol b (start + 1)
    let r ← readSymbol c (start + 2)
    let s ← readSymbol d (start + 3)
    let n := p * 262144 + q * 4096 + r * 64 + s
    decodeGroups (start + 4)
      (UInt8.ofNat n :: UInt8.ofNat (n / 256) :: UInt8.ofNat (n / 65536) :: done) (e :: rest)
  | group => do
    let (sextets, pads) ← readLast start 0 [] 0 group
    let last ← closeLast start group sextets pads
    .ok (done.reverse ++ last)

/-- A lone byte after whole groups is looked at before everything else. -/
def strayLast (bytes : Bytes) : Option Error :=
  match bytes.getLast? with
  | some byte =>
    if bytes.length % 4 = 1 ∧ byte ≠ padding ∧ sextet? byte = none then
      some (.invalidSymbol byte (bytes.length - 1))
    else none
  | none => none

/-- Read base64 bytes. -/
def decodeBytes (bytes : Bytes) : Except Error Bytes :=
  if bytes = [] then .ok []
  else match strayLast bytes with
    | some error => .error error
    | none => decodeGroups 0 [] bytes

/-- Read a base64 text. -/
def decode (text : String) : Except Error Bytes :=
  decodeBytes (Bytes.ofText text)

end Wallet.Base64
