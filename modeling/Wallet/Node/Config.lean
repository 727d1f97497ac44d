import Wallet.Network

/-!
# Which node, and how patiently

Where a node is, how often to ask it about a transaction and when to give up.
-/

namespace Wallet

/-- How a node is used. Times are in milliseconds. -/
structure NodeConfig where
  /-- The address of the node, which does not end in a slash. -/
  url : String
  /-- The time between two questions about a transaction. -/
  pollInterval : Nat
  /-- The time after which a transaction is given up. -/
  timeout : Nat
  deriving DecidableEq

namespace NodeConfig

/-- A text without the slashes at its end. -/
def withoutSlashes (url : String) : String :=
  String.ofList (url.toList.reverse.dropWhile (· = '/')).reverse

/-- The usual way to use a node: ask every second, for three minutes. -/
def ofUrl (url : String) : NodeConfig :=
  ⟨withoutSlashes url, 1000, 180000⟩

/-- The public node of a network. -/
def ofChain? (chain : Char) : Option NodeConfig :=
  (Network.publicNode? chain).map ofUrl

end NodeConfig

end Wallet
