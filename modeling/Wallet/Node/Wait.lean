import Wallet.Node.Query
import Wallet.Node.Config

/-!
# Waiting for a transaction

We ask about a transaction at the start and then after every interval, up to and including the
end of the waiting time. The first answer that settles the matter ends it: the transaction itself,
or anything that is neither a success nor "not known". An answer about another transaction settles
nothing.
-/

namespace Wallet.Node

/-- Whether what a node knows is about a given transaction. -/
def isAbout (id : String) (info : Json) : Bool :=
  (info.get? "id").bind Json.asString? = some id

/-- What an answer settles, if anything. -/
def settles (id : String) : Except NodeError (Option Json) → Option (Except NodeError Json)
  | .error e => some (.error e)
  | .ok (some info) => if isAbout id info then some (.ok info) else none
  | .ok none => none

/-- How often to ask at most. Without an interval the clock stands still, and asking goes on until
something is settled. -/
def pollLimit (interval timeout : Nat) : Nat :=
  if interval = 0 then UInt64.size else timeout / interval + 1

/-- Give up a transaction, after whatever is left of the waiting time. -/
def giveUp (id : String) (timeout left : Nat) : Exchange (Except NodeError Json) :=
  .pause left (.note (.gaveUp id timeout) (.done (.error (.timeout id timeout))))

/-- Ask at most `polls` times, of which the first is now and `left` milliseconds remain. -/
def poll (id : String) (interval timeout : Nat) :
    (polls : Nat) → (left : Nat) → Exchange (Except NodeError Json)
  | 0, left => giveUp id timeout left
  | polls + 1, left =>
    .ask (transactionInfo id).request fun reply =>
      match settles id (readKnown reply) with
      | some result => .done result
      | none =>
        .note (.pending id) <|
          -- A question that falls on the very end of the waiting time is still asked.
          if interval ≤ left then .pause interval (poll id interval timeout polls (left - interval))
          else giveUp id timeout left

/-- Wait until the node knows a transaction. -/
def wait (config : NodeConfig) (id : String) : Exchange (Except NodeError Json) :=
  poll id config.pollInterval config.timeout (pollLimit config.pollInterval config.timeout)
    config.timeout

end Wallet.Node
