import Wallet.Command.Grammar
import Wallet.Log.Filter

/-!
# What a command line says

The commands with their arguments, and how they are read. Some options can also be set by a
variable of the environment; what is given on the command line goes first.

Options that concern every command may be given before the name of a command, after it, or both.
The one nearest to the end counts.
-/

namespace Wallet.Command

/-- The variables of the environment. -/
abbrev Environment := String → Option String

/-- Who signs. -/
structure SignerArguments where
  seed : String
  nonce : UInt32
  keyType : KeyType

/-- What becomes of a signed transaction. -/
inductive Delivery where
  /-- It is shown. -/
  | print
  /-- It is sent to a node. -/
  | broadcast
  /-- It is sent to a node and waited for. -/
  | confirm
  deriving DecidableEq

/-- How a transaction is made and what becomes of it. -/
structure SubmitArguments where
  sponsorSeed : Option String
  fee : Option UInt64
  version : Option UInt8
  delivery : Delivery

/-- Where the hash to anchor comes from. -/
inductive AnchorSource where
  | hash (text : String)
  | file (path : String)

/-- What a command does. -/
inductive Action where
  | accountNew (keyType : KeyType)
  | accountShow (signer : SignerArguments) (expected : Option String)
  | validate (address : String)
  | anchor (source : AnchorSource) (signer : SignerArguments) (submit : SubmitArguments)
  | transfer (recipient : String) (amount : Int64) (attachment : String)
      (signer : SignerArguments) (submit : SubmitArguments)
  | lease (recipient : String) (amount : Int64) (signer : SignerArguments)
      (submit : SubmitArguments)
  | balance (address : String)
  | transaction (id : String) (verify : Bool)
  | wait (id : String)
  | height
  | block (height : Option UInt64)
  | history (address : String) (limit : UInt32) (after : Option String)
  | leases (address : String)
  | sponsorships (address : String)
  | associations (address : String)
  | compile (file : String)

/-- What concerns every command. -/
structure Settings where
  nodeUrl : Option String
  chainId : Char
  logFormat : Log.Format
  verbose : Bool

/-! ## §1. Values -/

/-- A number in decimal digits. -/
def readDigits? (cs : List Char) : Option Nat :=
  if cs.isEmpty || !cs.all Char.isDigit then none
  else some (cs.foldl (fun n c => n * 10 + (c.toNat - '0'.toNat)) 0)

/-- A number with or without a plus sign. -/
def readNatural? (text : String) : Option Nat :=
  match text.toList with
  | '+' :: cs => readDigits? cs
  | cs => readDigits? cs

/-- A number with or without a sign. -/
def readInteger? (text : String) : Option Int :=
  match text.toList with
  | '-' :: cs => (readDigits? cs).map fun n => -(n : Int)
  | _ => (readNatural? text).map Int.ofNat

/-- A number from zero up to a limit. -/
def readBelow? (limit : Nat) (text : String) : Option Nat :=
  match readInteger? text with
  | some i => if 0 ≤ i ∧ i < limit then some i.toNat else none
  | none => none

def readUInt8? (text : String) : Option UInt8 :=
  (readBelow? UInt8.size text).map UInt8.ofNat

def readUInt32? (text : String) : Option UInt32 :=
  (readBelow? UInt32.size text).map UInt32.ofNat

/-- A number of 64 bits, which takes no minus sign, not even in front of zero. -/
def readUInt64? (text : String) : Option UInt64 :=
  (readNatural? text).bind fun n => if n < UInt64.size then some (UInt64.ofNat n) else none

def readInt64? (text : String) : Option Int64 :=
  (readInteger? text).bind fun i =>
    if Int64.minValue.toInt ≤ i ∧ i ≤ Int64.maxValue.toInt then some (Int64.ofInt i) else none

/-- A single character. -/
def readChar? (text : String) : Option Char :=
  match text.toList with
  | [c] => some c
  | _ => none

def readKeyType? (text : String) : Option KeyType :=
  (KeyType.ofName text).toOption

def readFormat? (text : String) : Option Log.Format :=
  match text with
  | "pretty" => some .pretty
  | "json" => some .json
  | _ => none

/-- The name of a file, which must not be empty. -/
def readPath? (text : String) : Option String :=
  if text.isEmpty then none else some text

/-! ## §2. Options and positions -/

/-- An option whose value is read by `reader`. -/
def valued {α : Type} (name : String) (reader : String → Option α) : Flag :=
  ⟨name, none, .value fun text => (reader text).isSome⟩

/-- An option with any value. -/
def free (name : String) : Flag :=
  ⟨name, none, .value fun _ => true⟩

/-- An option without a value. -/
def switch (name : String) : Flag :=
  ⟨name, none, .switch⟩

/-- The options of every level. -/
def commonFlags : List Flag :=
  [free "node-url", valued "chain-id" readChar?, valued "log-format" readFormat?,
    ⟨"verbose", some 'v', .switch⟩, ⟨"help", some 'h', .help⟩, ⟨"version", some 'V', .version⟩]

def signerFlags : List Flag :=
  [free "seed", valued "nonce" readUInt32?, valued "key-type" readKeyType?]

def submitFlags : List Flag :=
  [free "sponsor-seed", valued "fee" readUInt64?, valued "tx-version" readUInt8?,
    switch "broadcast", switch "wait"]

/-- A position that takes any word. -/
def freeWord : Position :=
  ⟨fun _ => true, false⟩

/-- A position whose word is read by `reader`. -/
def word {α : Type} (reader : String → Option α) (negative : Bool) : Position :=
  ⟨fun text => (reader text).isSome, negative⟩

/-- The commands by what their lines look like. -/
inductive Verb where
  | accountNew
  | accountShow
  | validate
  | anchor
  | transfer
  | lease
  | balance
  | transaction
  | wait
  | height
  | block
  | history
  | leases
  | sponsorships
  | associations
  | compile
  deriving DecidableEq

/-- The options of a verb besides the common ones. -/
def Verb.flags : Verb → List Flag
  | .accountNew => [valued "key-type" readKeyType?]
  | .accountShow => signerFlags ++ [free "expect-address"]
  | .anchor => [valued "file" readPath?] ++ signerFlags ++ submitFlags
  | .transfer => [free "attachment"] ++ signerFlags ++ submitFlags
  | .lease => signerFlags ++ submitFlags
  | .transaction => [switch "verify"]
  | .history => [valued "limit" readUInt32?, free "after"]
  | _ => []

/-- The positions of a verb. -/
def Verb.positions : Verb → List Position
  | .accountNew => []
  | .accountShow => []
  | .height => []
  | .transfer => [freeWord, word readInt64? true]
  | .lease => [freeWord, word readInt64? true]
  | .block => [word readUInt64? false]
  | .compile => [word readPath? false]
  | _ => [freeWord]

def Verb.shape (verb : Verb) : Shape :=
  ⟨commonFlags ++ verb.flags, verb.positions, []⟩

/-- The verbs that stand alone. -/
def verbs : List (String × Verb) :=
  [("validate", .validate), ("anchor", .anchor), ("transfer", .transfer), ("lease", .lease),
    ("balance", .balance), ("tx", .transaction), ("wait", .wait), ("height", .height),
    ("block", .block), ("history", .history), ("leases", .leases),
    ("sponsorships", .sponsorships), ("associations", .associations), ("compile", .compile)]

/-- The verbs that stand behind `account`. -/
def accountVerbs : List (String × Verb) :=
  [("new", .accountNew), ("show", .accountShow)]

/-! ## §3. Actions -/

/-- Read the value of an option, or take what stands in for it. -/
def Found.read {α : Type} (found : Found) (name : String) (reader : String → Option α)
    (otherwise : α) : Option α :=
  match found.value? name with
  | some text => reader text
  | none => some otherwise

/-- Read the value of an option that may be absent. -/
def Found.readOptional {α : Type} (found : Found) (name : String) (reader : String → Option α) :
    Option (Option α) :=
  match found.value? name with
  | some text => (reader text).map some
  | none => some none

def readSigner (env : Environment) (found : Found) : Option SignerArguments := do
  let seed ← found.value? "seed" <|> env "LTO_SEED"
  let nonce ← found.read "nonce" readUInt32? 0
  let keyType ← found.read "key-type" readKeyType? .ed25519
  return ⟨seed, nonce, keyType⟩

/-- What becomes of a transaction. Only what is sent can be waited for. -/
def readDelivery (found : Found) : Option Delivery :=
  match found.has "broadcast", found.has "wait" with
  | false, false => some .print
  | true, false => some .broadcast
  | true, true => some .confirm
  | false, true => none

def readSubmit (env : Environment) (found : Found) : Option SubmitArguments := do
  let fee ← found.readOptional "fee" readUInt64?
  let version ← found.readOptional "tx-version" readUInt8?
  let delivery ← readDelivery found
  return ⟨found.value? "sponsor-seed" <|> env "LTO_SPONSOR_SEED", fee, version, delivery⟩

/-- What to anchor: either a hash or a file. -/
def readAnchorSource (found : Found) : Option AnchorSource :=
  match found.word? 0, found.value? "file" with
  | some hash, none => some (.hash hash)
  | none, some path => some (.file path)
  | _, _ => none

/-- Read what a verb does. -/
def Verb.read (env : Environment) (found : Found) : Verb → Option Action
  | .accountNew => return .accountNew (← found.read "key-type" readKeyType? .ed25519)
  | .accountShow =>
    return .accountShow (← readSigner env found) (found.value? "expect-address")
  | .validate => return .validate (← found.word? 0)
  | .anchor =>
    return .anchor (← readAnchorSource found) (← readSigner env found) (← readSubmit env found)
  | .transfer =>
    return .transfer (← found.word? 0) (← (found.word? 1).bind readInt64?)
      ((found.value? "attachment").getD "") (← readSigner env found) (← readSubmit env found)
  | .lease =>
    return .lease (← found.word? 0) (← (found.word? 1).bind readInt64?)
      (← readSigner env found) (← readSubmit env found)
  | .balance => return .balance (← found.word? 0)
  | .transaction => return .transaction (← found.word? 0) (found.has "verify")
  | .wait => return .wait (← found.word? 0)
  | .height => some .height
  | .block =>
    match found.word? 0 with
    | some text => return .block (some (← readUInt64? text))
    | none => some (.block none)
  | .history =>
    return .history (← found.word? 0) (← found.read "limit" readUInt32? 100)
      (found.value? "after")
  | .leases => return .leases (← found.word? 0)
  | .sponsorships => return .sponsorships (← found.word? 0)
  | .associations => return .associations (← found.word? 0)
  | .compile => return .compile (← found.word? 0)

/-! ## §4. Settings -/

/-- The value of a common option: that of the last level which has one, else that of the
variable `key`. Every level without a value of its own looks at the variable, which must then be
readable. -/
def readCommon {α : Type} (env : Environment) (levels : List Found) (name key : String)
    (reader : String → Option α) : Option (Option α) :=
  let texts := levels.map fun level => level.value? name <|> env key
  if texts.all fun text => text.all fun t => (reader t).isSome then
    match levels.reverse.findSome? fun level => level.value? name with
    | some text => (reader text).map some
    | none =>
      match env key with
      | some text => (reader text).map some
      | none => some none
  else none

/-- The settings that the levels of a command line and the environment amount to. -/
def readSettings (env : Environment) (levels : List Found) : Option Settings := do
  let nodeUrl ← readCommon env levels "node-url" "LTO_NODE_URL" some
  let chainId ← readCommon env levels "chain-id" "LTO_CHAIN_ID" readChar?
  let format ← readCommon env levels "log-format" "LTO_LOG_FORMAT" readFormat?
  return ⟨nodeUrl, chainId.getD Network.mainnet, format.getD .pretty,
    levels.any fun level => level.has "verbose"⟩

/-! ## §5. Command lines -/

/-- What a command line asks for. -/
inductive Intent where
  /-- Nothing that can be understood. -/
  | usage
  | help
  /-- The version, shown under the name of the level where it was asked for. -/
  | version (name : String)
  | run (settings : Settings) (action : Action)

/-- Read one level of a command line. -/
def readLevel (name : String) (shape : Shape) (words : List String) : Except Intent Reading :=
  match shape.read words with
  | .ok reading => .ok reading
  | .error .usage => .error .usage
  | .error .help => .error .help
  | .error .version => .error (.version name)

/-- Read the last level of a command line. What stood at the levels in front of it matters only
now, so that a request for help or for the version is answered whatever stood there. -/
def readVerb (env : Environment) (levels : List (Option Found)) (name : String) (verb : Verb)
    (words : List String) : Except Intent Intent := do
  match ← readLevel name verb.shape words with
  | .command .. => .error .usage
  | .complete found =>
    let settings? := do readSettings env ((← levels.mapM id) ++ [found])
    match settings?, verb.read env found with
    | some settings, some action => return .run settings action
    | _, _ => .error .usage

/-- Find the verb of a name. -/
def findVerb (table : List (String × Verb)) (name : String) : Except Intent Verb :=
  match table.find? fun entry => entry.1 = name with
  | some entry => .ok entry.2
  | none => .error .usage

/-- The level with the name of the command. -/
def topShape : Shape :=
  ⟨commonFlags, [],
    ("account", accountVerbs.map Prod.fst) :: verbs.map fun entry => (entry.1, [])⟩

/-- The level behind `account`. -/
def accountShape : Shape :=
  ⟨commonFlags, [], accountVerbs.map fun entry => (entry.1, [])⟩

/-- Read a command line, level by level. -/
def readLevels (env : Environment) (words : List String) : Except Intent Intent := do
  match ← readLevel "lto-node" topShape words with
  | .complete _ => .error .usage
  | .command top "account" words =>
    match ← readLevel "lto-node-account" accountShape words with
    | .complete _ => .error .usage
    | .command middle name words =>
      readVerb env [top, middle] s!"lto-node-account-{name}" (← findVerb accountVerbs name) words
  | .command top name words =>
    readVerb env [top] s!"lto-node-{name}" (← findVerb verbs name) words

/-- What a command line asks for. -/
def readIntent (env : Environment) (words : List String) : Intent :=
  match readLevels env words with
  | .ok intent => intent
  | .error intent => intent

end Wallet.Command
