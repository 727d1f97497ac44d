import Wallet.Bytes
import Wallet.Text.Quoted

/-!
# Hexadecimal

Two digits per byte. Writing uses lower case; reading takes both cases and works on the bytes of
the text, so an offending byte outside ASCII is named by the character of the same number.
-/

namespace Wallet.Hex

/-- The sixteen digits. -/
def alphabet : List Char :=
  "0123456789abcdef".toList

/-- The hexadecimal text of a byte string. -/
def encode (bytes : Bytes) : String :=
  String.ofList (bytes.flatMap fun byte =>
    [alphabet.getD (byte.toNat / 16) '0', alphabet.getD (byte.toNat % 16) '0'])

/-- Why a text is not hexadecimal. -/
inductive Error where
  | oddLength
  | notDigit (c : Char) (position : Nat)
  deriving DecidableEq

def Error.message : Error → String
  | .oddLength => "Odd number of digits"
  | .notDigit c position => s!"Invalid character {Text.quotedChar c} at position {position}"

/-- The value of a digit, in either case. -/
def digit? (byte : UInt8) : Option Nat :=
  let c := Char.ofNat byte.toNat
  alphabet.idxOf? (if 'A' ≤ c ∧ c ≤ 'F' then c.toLower else c)

/-- Read one digit. -/
def readDigit (byte : UInt8) (position : Nat) : Except Error Nat :=
  match digit? byte with
  | some digit => .ok digit
  | none => .error (.notDigit (Char.ofNat byte.toNat) position)

/-- Read pairs of digits in front of which `done`, latest byte first, has been read. -/
def decodePairs (position : Nat) (done : Bytes) : Bytes → Except Error Bytes
  | high :: low :: rest => do
    let h ← readDigit high position
    let l ← readDigit low (position + 1)
    decodePairs (position + 2) (UInt8.ofNat (16 * h + l) :: done) rest
  | _ => .ok done.reverse

/-- Read a hexadecimal text. An odd length is reported before any bad digit. -/
def decode (text : String) : Except Error Bytes :=
  let bytes := Bytes.ofText text
  if bytes.length % 2 = 1 then .error .oddLength else decodePairs 0 [] bytes

end Wallet.Hex
