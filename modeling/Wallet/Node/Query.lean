import Wallet.Node.Error
import Wallet.Json.Printer

/-!
# Single questions to a node

A question is one request, a reading of whatever comes back, and what there is to log about the
reading. All questions to a node are listed here; `NodeConfig.wait` is the only thing built from
more than one.

A reading never takes a refusal for success: only a status from 200 to 299 lets the body through.
-/

namespace Wallet

/-- A question to a node. -/
structure Query (α : Type) where
  request : Request
  read : Reply → Except NodeError α
  report : Except NodeError α → List Log.Event

/-- Ask a question. -/
def Query.exchange {α : Type} (q : Query α) : Exchange (Except NodeError α) :=
  .ask q.request fun reply =>
    let result := q.read reply
    .noteAll (q.report result) (.done result)

namespace Node

/-! ## §1. Reading replies -/

def isSuccess (status : Nat) : Bool :=
  200 ≤ status ∧ status < 300

/-- Why a node refused, in its own words if it used any. -/
def refusal (body : Json) : String :=
  match body with
  | .string text => text
  | body =>
    match (body.get? "message").bind Json.asString? with
    | some text => text
    | none => body.compact

/-- The body of a reply that is a success. -/
def readBody : Reply → Except NodeError Json
  | .failed reason => .error (.http reason)
  | .answered ⟨status, body⟩ =>
    if isSuccess status then .ok body else .error (.status status (refusal body))

/-- The body of a reply, unless the node says that it knows nothing. -/
def readKnown : Reply → Except NodeError (Option Json)
  | .answered ⟨404, _⟩ => .ok none
  | reply => do return some (← readBody reply)

/-- A text in the body of a reply. -/
def readString (name : String) (reply : Reply) : Except NodeError String := do
  match ((← readBody reply).get? name).bind Json.asString? with
  | some text => .ok text
  | none => .error (.malformed s!"string field \"{name}\"")

/-- A number in the body of a reply. -/
def readUnsigned (name : String) (reply : Reply) : Except NodeError UInt64 := do
  match ((← readBody reply).get? name).bind Json.asUnsigned? with
  | some number => .ok number
  | none => .error (.malformed s!"integer field \"{name}\"")

/-- A transaction, unless the node says that it knows none. -/
def readTransaction (reply : Reply) : Except NodeError (Option Transaction) := do
  match ← readKnown reply with
  | some document => return some (← NodeError.liftTransaction (Transaction.ofJson document))
  | none => return none

/-- The bytes of a compiled script, which comes with the marker or without it. -/
def readScript (reply : Reply) : Except NodeError Bytes := do
  match Base64.decode (Script.withoutMarker (← readString "script" reply)) with
  | .ok script => .ok script
  | .error cause => .error (.transaction (.decode (.base64 cause)))

/-! ## §2. Questions -/

/-- Nothing to log. -/
def quiet {α : Type} (_ : Except NodeError α) : List Log.Event :=
  []

/-- Ask for the document at a path. -/
def document (path : String) : Query Json :=
  ⟨.get path, readBody, quiet⟩

/-- Submit a transaction. The answer is the id that the node gave it. -/
def broadcast (transaction : Json) : Query String where
  request := .post "/transactions/broadcast" transaction.compact
  read := readString "id"
  report
    | .ok id => [.broadcast id]
    | .error _ => []

/-- What the node knows about a transaction. -/
def transactionInfo (id : String) : Query (Option Json) :=
  ⟨.get s!"/transactions/info/{id}", readKnown, quiet⟩

/-- A transaction that the node knows. -/
def transaction (id : String) : Query (Option Transaction) where
  request := .get s!"/transactions/info/{id}"
  read := readTransaction
  report
    | .error (.transaction cause) => Log.ofReading (.error cause)
    | _ => []

/-- The balance of an address in the smallest unit. -/
def balance (address : String) : Query UInt64 :=
  ⟨.get s!"/addresses/balance/{address}", readUnsigned "balance", quiet⟩

/-- The number of the newest block. -/
def height : Query UInt64 :=
  ⟨.get "/blocks/height", readUnsigned "height", quiet⟩

def lastBlock : Query Json :=
  document "/blocks/last"

def blockAt (height : UInt64) : Query Json :=
  document s!"/blocks/at/{height}"

/-- Transactions that involve an address, newest first, from the start or after one of them. -/
def transactions (address : String) (limit : UInt32) (after : Option String) : Query Json :=
  let page :=
    match after with
    | some id => s!"?after={id}"
    | none => ""
  document (s!"/transactions/address/{address}/limit/{limit}" ++ page)

/-- The active leases of an address. -/
def leaseList (address : String) : Query Json :=
  document s!"/leasing/active/{address}"

/-- Who sponsors an address. -/
def sponsorshipList (address : String) : Query Json :=
  document s!"/sponsorship/status/{address}"

def associationList (address : String) : Query Json :=
  document s!"/associations/status/{address}"

/-- Have a script compiled. -/
def compileScript (source : String) : Query Bytes :=
  ⟨.post "/utils/script/compile" source, readScript, quiet⟩

end Node

end Wallet
