/-!
# Networks

A network is named by one character, which is part of every address on it. Two networks are
public and have a node that anybody may use.
-/

namespace Wallet.Network

/-- The main network. -/
def mainnet : Char := 'L'

/-- The test network. -/
def testnet : Char := 'T'

/-- The public node of a network. -/
def publicNode? (chain : Char) : Option String :=
  if chain = mainnet then some "https://nodes.lto.network"
  else if chain = testnet then some "https://testnet.lto.network"
  else none

/-- The name of a network. -/
def name (chain : Char) : String :=
  if chain = mainnet then "mainnet"
  else if chain = testnet then "testnet"
  else s!"custom({chain})"

/-- Whether a character can name a network: addresses have a byte for it, and it must be ASCII. -/
def isChainId (chain : Char) : Bool :=
  chain.toNat < 128

end Wallet.Network
