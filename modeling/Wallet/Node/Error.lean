import Wallet.Node.Exchange

/-!
# What can go wrong with a node

Either there is no answer, or the answer is a refusal, or it is not what was asked for.
-/

namespace Wallet

/-- Why a node did not help. -/
inductive NodeError where
  /-- There was no answer. -/
  | http (reason : String)
  /-- The answer was a refusal. -/
  | status (code : Nat) (message : String)
  /-- A transaction did not show up in time. -/
  | timeout (id : String) (waited : Nat)
  /-- The answer held something that cannot be read. -/
  | transaction (cause : TransactionError)
  /-- The answer did not hold what it should. -/
  | malformed (missing : String)
  deriving DecidableEq

def NodeError.message : NodeError → String
  | .http reason => s!"HTTP request failed: {reason}"
  | .status code message => s!"node returned {code}: {message}"
  | .timeout id waited => s!"transaction {id} not confirmed after {Text.duration waited}"
  | .transaction cause => cause.message
  | .malformed missing => s!"unexpected response from node: missing {missing}"

/-- Pass on an error about a transaction. -/
def NodeError.liftTransaction {α : Type} : Except TransactionError α → Except NodeError α
  | .ok a => .ok a
  | .error cause => .error (.transaction cause)

end Wallet
