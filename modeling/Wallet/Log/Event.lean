import Wallet.Transaction.Document
import Wallet.Account.Profile
import Wallet.Node.Request
import Wallet.Text.Duration

/-!
# What is logged

Every line of the log is one of the events below. An event is data: its level, the part of the
program that it belongs to, and its fields are computed from it. No event holds a secret or a
phrase.

Computations that are pure log nothing themselves. What there is to say about them follows from
their results, and the functions at the end of this file say it.
-/

namespace Wallet.Log

/-- How important an event is, most important first. -/
inductive Level where
  | error
  | warn
  | info
  | debug
  | trace
  deriving DecidableEq

def Level.name : Level → String
  | .error => "ERROR"
  | .warn => "WARN"
  | .info => "INFO"
  | .debug => "DEBUG"
  | .trace => "TRACE"

/-- How little an event of a level matters. -/
def Level.rank : Level → Nat
  | .error => 1
  | .warn => 2
  | .info => 3
  | .debug => 4
  | .trace => 5

/-- How log lines are written. -/
inductive Format where
  | pretty
  | json
  deriving DecidableEq

def Format.title : Format → String
  | .pretty => "Pretty"
  | .json => "Json"

/-- Something worth a line in the log. -/
inductive Event where
  /-- Logging works from here on. -/
  | initialized (format : Format)
  /-- A command starts on a chain. -/
  | starting (chain : Char)
  /-- An account was made from a phrase. -/
  | derived (address : Address) (keyType : KeyType) (nonce : UInt32)
  | signed (kind : Kind) (version : Version) (sender : Address)
  | cosigned (kind : Kind) (signer : Address) (proofs : Nat)
  | sponsored (kind : Kind) (sponsor : Address)
  /-- A document names an address for a key that it does not belong to. -/
  | foreignAddress (role : Role) (address : Address)
  /-- A request goes out. -/
  | requested (method : Method) (url : String)
  | broadcast (id : String)
  /-- A transaction is not known yet and will be asked for again. -/
  | pending (id : String)
  | gaveUp (id : String) (timeout : Nat)
  deriving DecidableEq

namespace Event

def level : Event → Level
  | .broadcast _ => .info
  | .foreignAddress _ _ => .warn
  | .gaveUp _ _ => .warn
  | _ => .debug

/-- The part of the program that an event belongs to. -/
def target : Event → String
  | .initialized _ => "lto_node::logging"
  | .starting _ => "lto_node"
  | .derived .. => "lto_protocol::identity::factory"
  | .signed .. => "lto_protocol::transaction::signing"
  | .cosigned .. => "lto_protocol::transaction::signing"
  | .sponsored .. => "lto_protocol::transaction::signing"
  | .foreignAddress .. => "lto_protocol::transaction::json"
  | .requested .. => "lto_node::client"
  | .broadcast _ => "lto_node::client"
  | .pending _ => "lto_node::client"
  | .gaveUp .. => "lto_node::client"

def message : Event → String
  | .initialized format => s!"logging initialized (format={format.title})"
  | .starting _ => "starting lto-node"
  | .derived .. => "derived account from seed"
  | .signed .. => "transaction signed by sender"
  | .cosigned .. => "transaction co-signed"
  | .sponsored .. => "transaction sponsored"
  | .foreignAddress .. => "address does not belong to the public key"
  | .requested method _ => method.name
  | .broadcast _ => "transaction broadcast"
  | .pending _ => "transaction not yet known, polling again"
  | .gaveUp .. => "gave up waiting for transaction"

/-- What an event says besides its message. -/
def details : Event → List (String × Json)
  | .initialized _ => []
  | .starting chain =>
    [("chain_id", .string (String.singleton chain)), ("network", .string (Network.name chain))]
  | .derived address keyType nonce =>
    [("address", .string address.toText), ("key_type", .string keyType.name),
      ("nonce", .natural nonce.toNat)]
  | .signed kind version sender =>
    [("kind", .string kind.name), ("version", .string (toString version.number)),
      ("sender", .string sender.toText)]
  | .cosigned kind signer proofs =>
    [("kind", .string kind.name), ("signer", .string signer.toText),
      ("proofs", .natural proofs)]
  | .sponsored kind sponsor =>
    [("kind", .string kind.name), ("sponsor", .string sponsor.toText)]
  | .foreignAddress role address =>
    [("address", .string address.toText), ("field", .string role.field)]
  | .requested _ url => [("url", .string url)]
  | .broadcast id => [("id", .string id)]
  | .pending id => [("id", .string id)]
  | .gaveUp id timeout => [("id", .string id), ("timeout", .string (Text.duration timeout))]

/-- The names of what an event says. -/
def fieldNames (e : Event) : List String :=
  "message" :: e.details.map Prod.fst

/-- An event as a document. -/
def toJson (e : Event) : Json :=
  .ofFields [("level", .string e.level.name), ("target", .string e.target),
    ("fields", .ofFields (("message", .string e.message) :: e.details))]

/-- A detail as it is read by people. -/
def detailText : String × Json → String
  | (name, .string text) => s!" {name}={text}"
  | (name, value) => s!" {name}={value.compact}"

/-- An event as one line. -/
def line (format : Format) (e : Event) : String :=
  match format with
  | .json => e.toJson.compact
  | .pretty => s!"{e.level.name} {e.target}: {e.message}{String.join (e.details.map detailText)}"

end Event

/-! ## What follows from results -/

/-- What there is to say about a new account: whether it came from a phrase. -/
def ofAccount (a : Account) : List Event :=
  match a.seed with
  | some _ => [.derived a.address a.keyType a.nonce]
  | none => []

/-- What there is to say about a transaction that an account has just signed. -/
def ofSigned (tx : Transaction) (account : Account) : List Event :=
  match tx.signing with
  | .signed _ _ [] => [.signed tx.kind tx.version account.address]
  | _ => [.cosigned tx.kind account.address tx.proofs.length]

/-- What there is to say about a transaction that an account has just sponsored. -/
def ofSponsored (tx : Transaction) (account : Account) : List Event :=
  [.sponsored tx.kind account.address]

/-- What there is to say about a document that was read. -/
def ofReading (result : Except TransactionError Transaction) : List Event :=
  match result with
  | .error (.malformed (.foreignAddress role address)) => [.foreignAddress role address]
  | _ => []

end Wallet.Log
