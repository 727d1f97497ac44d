import Wallet.Log.Event

/-!
# Talking to a node

A computation that talks to a node is a tree: it ends with a value, asks something and goes on
with whatever comes back, pauses, or notes an event. The tree is data, so what a computation asks
and when can be read off it without a network.

`run` answers from a list of replies on a clock that moves only in pauses. It keeps the requests,
the events and the time that passed.
-/

namespace Wallet

/-- An answer of a node. A body that is not JSON counts as a JSON string. -/
structure Response where
  status : Nat
  body : Json

/-- What comes of a request. -/
inductive Reply where
  /-- There was no answer, for the reason given. -/
  | failed (reason : String)
  | answered (response : Response)

/-- A computation that talks to a node. -/
inductive Exchange (α : Type) where
  | done (value : α)
  | ask (request : Request) (next : Reply → Exchange α)
  | pause (millis : Nat) (next : Exchange α)
  | note (event : Log.Event) (next : Exchange α)

namespace Exchange

variable {α β : Type}

/-- Go on with the value of a computation. -/
def andThen (next : α → Exchange β) : Exchange α → Exchange β
  | .done value => next value
  | .ask request rest => .ask request fun reply => (rest reply).andThen next
  | .pause millis rest => .pause millis (rest.andThen next)
  | .note event rest => .note event (rest.andThen next)

instance : Monad Exchange where
  pure := .done
  bind x next := x.andThen next

/-- Note several events. -/
def noteAll (events : List Log.Event) (next : Exchange α) : Exchange α :=
  events.foldr .note next

/-- Note several events and do nothing else. -/
def report (events : List Log.Event) : Exchange Unit :=
  noteAll events (.done ())

/-- What a computation came to. -/
structure Run (α : Type) where
  value : α
  /-- The requests in the order in which they were made. -/
  requests : List Request
  /-- The milliseconds that were spent in pauses. -/
  elapsed : Nat
  events : List Log.Event
  /-- The replies that were not used. -/
  unread : List Reply

namespace Run

def addRequest (request : Request) (r : Run α) : Run α :=
  { r with requests := request :: r.requests }

def addPause (millis : Nat) (r : Run α) : Run α :=
  { r with elapsed := millis + r.elapsed }

def addEvent (event : Log.Event) (r : Run α) : Run α :=
  { r with events := event :: r.events }

end Run

/-- Run a computation on a list of replies, after which every request gets the last one given. -/
def run (closing : Reply) : Exchange α → List Reply → Run α
  | .done value, replies => ⟨value, [], 0, [], replies⟩
  | .ask request next, [] => (run closing (next closing) []).addRequest request
  | .ask request next, reply :: replies => (run closing (next reply) replies).addRequest request
  | .pause millis next, replies => (run closing next replies).addPause millis
  | .note event next, replies => (run closing next replies).addEvent event

end Exchange

end Wallet
