import Wallet.Hash.Sha2
import Wallet.Hash.Blake2b

/-!
# Compositions of the two hash functions

`secure` is the hash from which addresses, their checksums and account seeds are cut;
`hmac256` is the keyed hash that derives signature nonces.
-/

namespace Wallet.Hash

/-- SHA-256 over BLAKE2b-256. -/
def secure (message : Bytes) : Octets 32 :=
  sha256 (blake2b256 message).list

/-- SHA-256 of several parts as one message. -/
def sha256Parts (parts : List Bytes) : Octets 32 :=
  sha256 parts.flatten

/-- HMAC with SHA-256, for keys of at most one block of 64 bytes. -/
def hmac256 (key message : Bytes) : Octets 32 :=
  let block := key ++ List.replicate (64 - key.length) 0
  let inner := sha256 (block.map (· ^^^ 0x36) ++ message)
  sha256 (block.map (· ^^^ 0x5c) ++ inner.list)

end Wallet.Hash
