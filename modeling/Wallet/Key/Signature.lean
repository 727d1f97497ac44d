import Wallet.Key.Scheme

/-!
# Signatures

Sixty-four bytes under every scheme, written in base58.
-/

namespace Wallet

/-- A signature. -/
structure Signature where
  octets : Octets 64
  deriving DecidableEq

namespace Signature

def bytes (s : Signature) : Bytes :=
  s.octets.list

/-- Read a signature from its bytes. -/
def ofBytes (bytes : Bytes) : Except KeyError Signature :=
  match Octets.ofList? 64 bytes with
  | some octets => .ok ⟨octets⟩
  | none => .error .invalidSignature

/-- Read a signature from its text. -/
def ofBase58 (text : String) : Except KeyError Signature := do
  ofBytes (← KeyError.decodeBase58 text)

def toBase58 (s : Signature) : String :=
  Base58.encode s.bytes

/-- A short form for reading: both ends of the text. -/
def describe (s : Signature) : String :=
  let cs := Base58.encodeChars s.bytes
  if 16 < cs.length then
    s!"Signature({String.ofList (cs.take 8)}...{String.ofList (cs.drop (cs.length - 8))})"
  else s!"Signature({String.ofList cs})"

end Signature

end Wallet
