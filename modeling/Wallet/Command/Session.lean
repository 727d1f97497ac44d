import Wallet.Command.Arguments
import Wallet.Node.Wait
import Wallet.Node.Http
import Wallet.Text.Hex

/-!
# Running commands

A command is a computation that may talk to a node and ends with a document to print or with a
failure. What it takes from its surroundings besides the node is passed in: files, the time, and
random numbers.

Nothing is sent before everything that can fail without a node has been done: reading the
arguments, signing, sponsoring, and finding out which node to use.
-/

namespace Wallet.Command

/-- What a command takes from its surroundings. -/
structure Surroundings where
  /-- The bytes of a file, or why it cannot be read. -/
  readFile : String → Except String Bytes
  /-- Milliseconds since 1970. -/
  now : UInt64
  /-- Five random numbers. -/
  draws : Vector UInt32 5

/-- Why a command failed: what was being done and what got in the way. -/
structure Failure where
  message : String
  cause : Option String

/-- A text of which all lines are indented. -/
def indented (text : String) : String :=
  "\n".intercalate ((text.splitOn "\n").map fun line => "    " ++ line)

/-- A failure as it is shown. -/
def Failure.text (f : Failure) : String :=
  match f.cause with
  | some cause => s!"Error: {f.message}\n\nCaused by:\n{indented cause}"
  | none => s!"Error: {f.message}"

/-- A computation that may fail. -/
abbrev Task := ExceptT Failure Exchange

namespace Task

variable {α ε : Type}

/-- Fail without a cause. -/
def fail (message : String) : Task α :=
  throw ⟨message, none⟩

/-- Take a result, or fail with what was being done and the message of the error. -/
def expect (doing : String) (message : ε → String) : Except ε α → Task α
  | .ok a => pure a
  | .error e => throw ⟨doing, some (message e)⟩

/-- Take a value, or fail. -/
def demand (message : String) : Option α → Task α
  | some a => pure a
  | none => fail message

/-- Note events. -/
def report (events : List Log.Event) : Task Unit :=
  ExceptT.lift (Exchange.report events)

/-- Talk to a node, or fail with what was being done. -/
def ask (config : NodeConfig) (doing : String) (x : Exchange (Except NodeError α)) : Task α := do
  expect doing NodeError.message (← ExceptT.lift (Http.through config.url x))

end Task

/-- What is common to all commands: the chain and the node. -/
structure Session where
  profile : Profile
  node? : Option NodeConfig

namespace Session

/-- The session of some settings. -/
def start (settings : Settings) : Task Session := do
  let profile ← Task.expect s!"invalid chain id '{settings.chainId}'" AddressError.message
    (Profile.ofChain settings.chainId)
  match settings.nodeUrl with
  | some url => return ⟨profile, some (.ofUrl url)⟩
  | none => return ⟨profile, NodeConfig.ofChain? settings.chainId⟩

/-- The node to talk to. -/
def node (s : Session) : Task NodeConfig :=
  Task.demand "no known public node for this chain; pass --node-url" s.node?

/-- Ask the node a single question. -/
def query {α : Type} (s : Session) (doing : String) (q : Query α) : Task α := do
  Task.ask (← s.node) doing q.exchange

/-! ## §1. Accounts -/

/-- Make an account and note it. -/
def introduce (account : Account) : Task Account := do
  Task.report (Log.ofAccount account)
  return account

/-- The account that signs. -/
def account (s : Session) (signer : SignerArguments) : Task Account :=
  introduce ((s.profile.withKeyType signer.keyType).fromPhrase signer.seed signer.nonce)

/-- A text, or `null`. -/
def optionalString : Option String → Json
  | some text => .string text
  | none => .null

/-- An account with its secrets. -/
def accountJson (a : Account) : Json :=
  .ofFields [("address", .string a.address.toText),
    ("chainId", .string (String.singleton a.chainId)), ("keyType", .string a.keyType.name),
    ("publicKey", .string a.publicKey.toBase58),
    ("privateKey", optionalString (a.keyPair.map KeyPair.secretBase58)),
    ("seed", optionalString a.seed), ("nonce", .natural a.nonce.toNat)]

/-- Whether a text is an address, and why not. -/
def validation (text : String) : Json :=
  match Address.validate text with
  | .ok valid => .ofFields [("address", .string text), ("valid", .bool valid)]
  | .error e =>
    .ofFields [("address", .string text), ("valid", .bool false), ("reason", .string e.message)]

/-! ## §2. Transactions -/

/-- A text without any number of `0x` in front. -/
def withoutHexMarker : List Char → List Char
  | '0' :: 'x' :: rest => withoutHexMarker rest
  | cs => cs

/-- The bytes of a file. -/
def readFile (around : Surroundings) (path : String) : Task Bytes :=
  Task.expect s!"failed to read {path}" id (around.readFile path)

/-- The bytes to anchor. -/
def anchorBytes (around : Surroundings) : AnchorSource → Task Bytes
  | .hash text =>
    Task.expect s!"{text} is not valid hex" Hex.Error.message
      (Hex.decode (String.ofList (withoutHexMarker text.toList)))
  | .file path => do return (Hash.sha256 (← readFile around path)).list

/-- The address that a transaction goes to. -/
def recipient (text : String) : Task Address :=
  Task.expect s!"invalid recipient address {text}" AddressError.message (Address.ofText text)

/-- The version that was asked for. -/
def requestedVersion : Option UInt8 → Task (Option Version)
  | some number => do
    return some (← Task.demand s!"unknown version {number}" (Version.ofNumber? number))
  | none => return none

/-- Make a transaction. -/
def build (body : Body) (options : Options) : Task Transaction :=
  match Transaction.create body options with
  | .ok tx => pure tx
  | .error e => Task.fail e.message

/-- Sign a transaction and note it. -/
def sign (around : Surroundings) (tx : Transaction) (account : Account) : Task Transaction := do
  let tx ← Task.expect "failed to sign transaction" TransactionError.message
    (tx.sign account around.now)
  Task.report (Log.ofSigned tx account)
  return tx

/-- Have a transaction sponsored by the first account of a phrase, and note it. -/
def sponsor (s : Session) (tx : Transaction) (seed : String) : Task Transaction := do
  let account ← introduce (s.profile.fromPhrase seed 0)
  let tx ← Task.expect "failed to sponsor transaction" TransactionError.message
    (tx.sponsor account)
  Task.report (Log.ofSponsored tx account)
  return tx

/-- A transaction with the body, signed and sponsored as the arguments say. -/
def prepare (s : Session) (around : Surroundings) (body : Body) (signer : SignerArguments)
    (submit : SubmitArguments) : Task Transaction := do
  -- A version that does not exist is reported before there is an account to note.
  let version ← requestedVersion submit.version
  let sender ← s.account signer
  let tx ← sign around (← build body ⟨version, submit.fee, none⟩) sender
  match submit.sponsorSeed with
  | some seed => s.sponsor tx seed
  | none => return tx

/-- Send a document and, if that is asked for, wait until the node knows it. -/
def deliver (s : Session) (document : Json) : Delivery → Task Json
  | .print => return document
  | .broadcast => do
    let id ← s.query "broadcast failed" (Node.broadcast document)
    return .ofFields [("id", .string id), ("transaction", document)]
  | .confirm => do
    -- Without a node there is nothing to send to, so the node comes first; the same one is asked
    -- later.
    let config ← s.node
    let id ← Task.ask config "broadcast failed" (Node.broadcast document).exchange
    Task.ask config s!"transaction {id} was broadcast but not confirmed" (Node.wait config id)

/-- Prepare a transaction and deliver it. -/
def submit (s : Session) (around : Surroundings) (body : Body) (signer : SignerArguments)
    (arguments : SubmitArguments) : Task Json := do
  let tx ← s.prepare around body signer arguments
  s.deliver tx.toJson arguments.delivery

/-! ## §3. Commands -/

/-- Take what the node knows about a transaction, or fail. -/
def known {α : Type} (id : String) (found : Option α) : Task α :=
  Task.demand s!"transaction {id} is not known to the node" found

/-- The text of a file. -/
def readText (around : Surroundings) (path : String) : Task String := do
  let bytes ← readFile around path
  Task.expect s!"failed to read {path}" id <|
    match String.fromUTF8? (ByteArray.mk bytes.toArray) with
    | some text => .ok text
    | none => .error "stream did not contain valid UTF-8"

/-- A compiled script, with the marker in front, and its size. -/
def scriptJson (script : Bytes) : Json :=
  .ofFields [("script", .string (Script.marker ++ Base64.encode script)),
    ("size", .natural script.length)]

/-- Run a command. -/
def run (s : Session) (around : Surroundings) : Action → Task Json
  | .accountNew keyType => do
    return accountJson (← introduce ((s.profile.withKeyType keyType).fresh around.draws))
  | .accountShow signer expected => do
    let account ← s.account signer
    Task.expect "derived account does not match" AccountError.message
      ((s.profile.withKeyType signer.keyType).checkAccount account expected none none)
    return accountJson account
  | .validate address => return validation address
  | .anchor source signer arguments => do
    s.submit around (.anchor (← anchorBytes around source)) signer arguments
  | .transfer address amount attachment signer arguments => do
    let recipient ← recipient address
    let body ← Task.expect "invalid transfer" TransactionError.message
      (Body.newTransfer recipient amount (Bytes.ofText attachment))
    s.submit around body signer arguments
  | .lease address amount signer arguments => do
    let recipient ← recipient address
    let body ← Task.expect "invalid lease" TransactionError.message
      (Body.newLease recipient amount)
    s.submit around body signer arguments
  | .balance address => do
    let balance ← s.query "balance query failed" (Node.balance address)
    return .ofFields [("address", .string address), ("balance", .natural balance.toNat)]
  | .transaction id true => do
    let tx ← known id (← s.query "transaction query failed" (Node.transaction id))
    let valid ← Task.expect "cannot verify transaction" TransactionError.message tx.verify
    return .ofFields [("transaction", tx.toJson), ("proofsValid", .bool valid)]
  | .transaction id false => do
    known id (← s.query "transaction query failed" (Node.transactionInfo id))
  | .wait id => do
    let config ← s.node
    Task.ask config s!"waiting for {id} failed" (Node.wait config id)
  | .height => do
    let height ← s.query "height query failed" Node.height
    return .ofFields [("height", .natural height.toNat)]
  | .block (some height) => s.query "block query failed" (Node.blockAt height)
  | .block none => s.query "block query failed" Node.lastBlock
  | .history address limit after =>
    s.query "history query failed" (Node.transactions address limit after)
  | .leases address => s.query "lease query failed" (Node.leaseList address)
  | .sponsorships address => s.query "sponsorship query failed" (Node.sponsorshipList address)
  | .associations address => s.query "association query failed" (Node.associationList address)
  | .compile file => do
    let source ← readText around file
    return scriptJson (← s.query "compilation failed" (Node.compileScript source))

end Session

end Wallet.Command
