import Wallet.Bytes

/-!
# The grammar of a command line

A command line is read level by level: the words before the name of a command belong to the
program, those after it to the command. At each level there are options, which may stand anywhere,
and positions, which are filled in order.

* `--name value` and `--name=value` give an option its value. A separate value must not look like
  an option itself.
* `-v` is a short option; several may be joined, as in `-vh`.
* After `--` every word fills a position.
* A word such as `-5` fills a position that takes negative numbers, and is a row of short options
  where the next position does not take them.

No option may be given twice at one level. Requests for help or for the version are answered as
soon as they are seen, so what stands behind them does not matter. The value in a word of its own
is looked at with the word after it, and if that is the name of a command, only when the command
has been read.
-/

namespace Wallet.Command

/-- What an option does. -/
inductive Effect where
  /-- It is on once it is given. -/
  | switch
  /-- It takes a value, which must be acceptable. -/
  | value (accepts : String → Bool)
  | help
  | version

/-- An option. -/
structure Flag where
  name : String
  short : Option Char
  effect : Effect

/-- A position. -/
structure Position where
  accepts : String → Bool
  /-- Whether a negative number may stand here. -/
  negative : Bool

/-- What can stand at one level of a command line. -/
structure Shape where
  flags : List Flag
  positions : List Position
  /-- The names of commands, each with the names of the commands behind it. -/
  commands : List (String × List String)

/-- What stood at one level of a command line. -/
structure Found where
  values : List (String × String)
  switches : List String
  words : List String

namespace Found

def nothing : Found :=
  ⟨[], [], []⟩

/-- The value of an option. -/
def value? (found : Found) (name : String) : Option String :=
  (found.values.find? fun entry => entry.1 = name).map Prod.snd

/-- Whether a switch is on. -/
def has (found : Found) (name : String) : Bool :=
  found.switches.contains name

/-- The word in a position. -/
def word? (found : Found) (index : Nat) : Option String :=
  found.words[index]?

end Found

/-- Why reading a level ended early. -/
inductive Halt where
  | usage
  | help
  | version
  deriving DecidableEq

/-- How reading a level ended. -/
inductive Reading where
  /-- The words are used up. -/
  | complete (found : Found)
  /-- The name of a command stood there, and `rest` behind it. What stood in front of the name is
  missing if it turned out to be wrong. -/
  | command (found : Option Found) (name : String) (rest : List String)

/-! ## §1. Words -/

/-- Whether a word is a number when read without its sign: digits with at most one point, which
is not in front, and at most one exponent, which is neither in front nor at the end. -/
def isNumber (pointSeen exponentSeen first : Bool) : List Char → Bool
  | [] => true
  | c :: rest =>
    if c.isDigit then isNumber pointSeen exponentSeen false rest
    else if c = '.' && !pointSeen && !exponentSeen && !first then
      isNumber true exponentSeen false rest
    else if (c = 'e' || c = 'E') && !exponentSeen && !first && !rest.isEmpty then
      isNumber pointSeen true false rest
    else false

/-- What a word looks like. -/
inductive Look where
  | plain
  /-- The two dashes that end the options. -/
  | escape
  | long (name : String) (attached : Option String)
  | short (letters : List Char)

/-- The name of a long option and the value behind an equals sign. -/
def splitLong (cs : List Char) : Look :=
  let name := cs.takeWhile (· ≠ '=')
  match cs.drop name.length with
  | _ :: attached => .long (String.ofList name) (some (String.ofList attached))
  | [] => .long (String.ofList name) none

/-- What a word looks like where negative numbers are, or are not, taken. -/
def look (negative : Bool) (word : String) : Look :=
  match word.toList with
  | ['-', '-'] => .escape
  | '-' :: '-' :: rest => splitLong rest
  | ['-'] => .plain
  | '-' :: letters =>
    if negative && isNumber false false true letters then .plain else .short letters
  | _ => .plain

/-! ## §2. One word after the other -/

namespace Shape

/-- The position that is filled next. -/
def next? (shape : Shape) (found : Found) : Option Position :=
  shape.positions[found.words.length]?

/-- Whether the position that is filled next takes negative numbers. -/
def takesNegative (shape : Shape) (found : Found) : Bool :=
  (shape.next? found).any Position.negative

/-- Fill the next position. -/
def addWord (shape : Shape) (found : Found) (word : String) : Except Halt Found :=
  match shape.next? found with
  | some position =>
    if position.accepts word then .ok { found with words := found.words ++ [word] }
    else .error .usage
  | none => .error .usage

/-- Give an option a value. -/
def addValue (found : Found) (name : String) (accepts : String → Bool) (value : String) :
    Except Halt Found :=
  if (found.value? name).isSome then .error .usage
  else if accepts value then .ok { found with values := found.values ++ [(name, value)] }
  else .error .usage

/-- Apply an option that takes no value. -/
def addSwitch (found : Found) (flag : Flag) : Except Halt Found :=
  match flag.effect with
  | .switch =>
    if found.has flag.name then .error .usage
    else .ok { found with switches := found.switches ++ [flag.name] }
  | .help => .error .help
  | .version => .error .version
  | .value _ => .error .usage

/-- Apply a row of short options. -/
def addShort (shape : Shape) (found : Found) : List Char → Except Halt Found
  | [] => .ok found
  | letter :: rest =>
    match shape.flags.find? fun flag => flag.short = some letter with
    | some flag => do addShort shape (← addSwitch found flag) rest
    | none => .error .usage

/-- Whether a word can be the value of the option in front of it. -/
def canBeValue (shape : Shape) (found : Found) (word : String) : Bool :=
  match look (shape.takesNegative found) word with
  | .plain => true
  | _ => false

/-- A value for an option that has not been looked at. -/
structure Held where
  name : String
  accepts : String → Bool
  value : String

/-- Look at the value that is held. -/
def settle (found : Found) : Option Held → Except Halt Found
  | some held => addValue found held.name held.accepts held.value
  | none => .ok found

/-- Where reading a level stands. -/
inductive Stage where
  /-- An option, a position or a command comes next. -/
  | ready (held : Option Held)
  /-- An option waits for its value. -/
  | value (name : String) (accepts : String → Bool)
  /-- The options have ended. -/
  | positions

/-- What a long option asks for next. -/
def addLong (shape : Shape) (found : Found) (name : String) (attached : Option String) :
    Except Halt (Found × Stage) :=
  match shape.flags.find? fun flag => flag.name = name with
  | none => .error .usage
  | some flag =>
    match flag.effect, attached with
    | .value accepts, some value => do return (← addValue found name accepts value, .ready none)
    | .value accepts, none => .ok (found, .value name accepts)
    | _, some _ => .error .usage
    | _, none => do return (← addSwitch found flag, .ready none)

/-- How asking for help about the commands among `names` ends. -/
def helpAmong (names : List String) : List String → Halt
  | [] => .help
  | [name] =>
    if names.contains name || (name = "help" && !names.isEmpty) then .help else .usage
  | _ => .usage

/-- How asking for help ends, which may name a command and one behind it. -/
def helpWith (shape : Shape) : List String → Halt
  | [] => .help
  | name :: rest =>
    match shape.commands.find? fun entry => entry.1 = name with
    | some entry => helpAmong entry.2 rest
    | none => if name = "help" && rest.isEmpty then .help else .usage

/-- Whether a word is the name of a command. -/
def isCommand (shape : Shape) (word : String) : Bool :=
  shape.commands.any fun entry => entry.1 = word

/-- Read a level up to its end or to the name of a command. -/
def scan (shape : Shape) (found : Found) : Stage → List String → Except Halt Reading
  | .value _ _, [] => .error .usage
  | .ready held, [] => do return .complete (← settle found held)
  | .positions, [] => .ok (.complete found)
  | .positions, word :: rest => do scan shape (← shape.addWord found word) .positions rest
  | .value name accepts, word :: rest =>
    -- The value is only held here; `settle` looks at it together with the word behind it.
    if shape.canBeValue found word then scan shape found (.ready (some ⟨name, accepts, word⟩)) rest
    else .error .usage
  | .ready held, word :: rest =>
    match look (shape.takesNegative found) word with
    | .escape => do scan shape (← settle found held) .positions rest
    | .short letters => do
      scan shape (← shape.addShort (← settle found held) letters) (.ready none) rest
    | .long name attached => do
      let (found, stage) ← shape.addLong (← settle found held) name attached
      scan shape found stage rest
    | .plain =>
      if shape.isCommand word then .ok (.command (settle found held).toOption word rest)
      else if !shape.commands.isEmpty && word = "help" then .error (shape.helpWith rest)
      else do scan shape (← shape.addWord (← settle found held) word) (.ready none) rest

/-- Read a level from its start. -/
def read (shape : Shape) (words : List String) : Except Halt Reading :=
  shape.scan .nothing (.ready none) words

end Shape

end Wallet.Command
