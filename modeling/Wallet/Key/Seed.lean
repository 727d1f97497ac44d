import Wallet.Key.Pair

/-!
# From a phrase to a key

A seed phrase and an account number give a seed of 32 bytes. The phrase is hashed one byte per
character if every character fits one, which covers all phrases made from the word list, and in
UTF-8 otherwise.
-/

namespace Wallet

/-- The bytes of a phrase: one per character if each fits, UTF-8 otherwise. -/
def phraseBytes (phrase : String) : Bytes :=
  let cs := phrase.toList
  if cs.all fun c => c.toNat ≤ 0xff then cs.map fun c => UInt8.ofNat c.toNat
  else Bytes.ofText phrase

/-- What is hashed for an account of a phrase: the number of the account, then the phrase. -/
def seedInput (phrase : String) (nonce : UInt32) : Bytes :=
  bigEndian 4 nonce.toNat ++ phraseBytes phrase

/-- The seed of an account of a phrase. -/
def accountSeed (phrase : String) (nonce : UInt32) : Octets 32 :=
  Hash.sha256 (Hash.secure (seedInput phrase nonce)).list

end Wallet
