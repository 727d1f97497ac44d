import Wallet.Radix
import Wallet.Text.Quoted

/-!
# Base58

Keys, signatures, addresses and attachments travel as base58: the bytes are read as one numeral
in base 256 and written in base 58, and every leading zero byte becomes one leading `1`.

The alphabet leaves out `0`, `O`, `I` and `l`. Reading stops at the first character that is not
in it, and the error names that character and where it stands.
-/

namespace Wallet.Base58

/-- The 58 symbols in the order of their values. -/
def alphabet : List Char :=
  "123456789ABCDEFGHJKLMNPQRSTUVWXYZabcdefghijkmnopqrstuvwxyz".toList

/-- The symbol of a digit. -/
def symbol (digit : Nat) : Char :=
  alphabet.getD digit '1'

/-- The digit of a symbol. -/
def digit? (c : Char) : Option Nat :=
  alphabet.idxOf? c

/-- Why a text is not base58. Positions count bytes, and all characters before the offending one
take a single byte each. -/
inductive Error where
  | notAscii (position : Nat)
  | notInAlphabet (c : Char) (position : Nat)
  deriving DecidableEq

def Error.message : Error → String
  | .notAscii position =>
    s!"provided string contained non-ascii character starting at byte {position}"
  | .notInAlphabet c position =>
    s!"provided string contained invalid character {Text.quotedChar c} at byte {position}"

/-- The number of zero bytes that a byte string starts with. -/
def leadingZeros (bytes : Bytes) : Nat :=
  (bytes.takeWhile (· == 0)).length

/-- The base58 characters of a byte string. -/
def encodeChars (bytes : Bytes) : List Char :=
  List.replicate (leadingZeros bytes) '1' ++ (Radix.digits 58 (Bytes.toNat bytes)).map symbol

/-- The base58 text of a byte string. -/
def encode (bytes : Bytes) : String :=
  String.ofList (encodeChars bytes)

/-- The byte string of a list of digits below 58. -/
def ofDigits (ds : List Nat) : Bytes :=
  List.replicate (ds.takeWhile (· == 0)).length 0 ++
    (Radix.digits 256 (Radix.value 58 ds)).map UInt8.ofNat

/-- The first character that has no digit, with its position. -/
def firstBad (cs : List Char) : Option (Char × Nat) :=
  cs.zipIdx.find? fun (c, _) => (digit? c).isNone

/-- Read base58 characters. -/
def decodeChars (cs : List Char) : Except Error Bytes :=
  match firstBad cs with
  | some (c, position) =>
    .error (if c.toNat < 128 then .notInAlphabet c position else .notAscii position)
  | none => .ok (ofDigits (cs.map fun c => (digit? c).getD 0))

/-- Read a base58 text. -/
def decode (text : String) : Except Error Bytes :=
  decodeChars text.toList

end Wallet.Base58
