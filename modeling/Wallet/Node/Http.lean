import Wallet.Node.Exchange
import Wallet.Json.Parser

/-!
# Requests over HTTP

Between a computation that names paths and a server that takes whole addresses stands this layer.
It puts the address of the node in front of every path, logs the request, and reads the text that
comes back as JSON if it is, and as a JSON string if it is not.
-/

namespace Wallet.Http

/-- What a server sends. -/
inductive Message where
  /-- Sending the request or reading the answer failed. -/
  | failed (reason : String)
  | received (status : Nat) (text : String)

/-- The text of an answer as JSON. -/
def decodeBody (text : String) : Json :=
  match Json.parse text with
  | .ok body => body
  | .error _ => .string text

/-- What a message is to the one who asked. -/
def decode : Message → Reply
  | .failed reason => .failed reason
  | .received status text => .answered ⟨status, decodeBody text⟩

/-- Send every request of a computation to a node. -/
def through {α : Type} (url : String) : Exchange α → Exchange α
  | .done value => .done value
  | .ask request next =>
    let target := url ++ request.target
    -- Noted in front of the request, and so also where no answer comes.
    .note (.requested request.method target)
      (.ask { request with target } fun reply => through url (next reply))
  | .pause millis next => .pause millis (through url next)
  | .note event next => .note event (through url next)

end Wallet.Http
