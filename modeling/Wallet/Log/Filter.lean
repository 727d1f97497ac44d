import Wallet.Log.Event
import Wallet.Log.Pattern

/-!
# Which events are shown

A filter is a list of directives, separated by commas. A directive sets the level up to which
events are shown, for all parts of the program or for those whose name starts with a given text,
and perhaps only for events with a given field:

    warn
    lto_node=debug,lto_protocol=info
    lto_node[{url}]=debug,[{id}]

Of the directives that apply to an event, the one with the longest name decides; of those for the
same name the one whose field is last in the alphabet, a directive without a field being the first;
and of those for the same field the later. Without one that applies, the event is not shown.

A directive can also ask for a span around the event, `[name]`, or for the value of a field,
`[{field=value}]`, which belongs to the span. There are no spans, so such a directive never
applies. It must be well formed all the same, or the filter cannot be read.
-/

namespace Wallet.Log

/-- A field that a directive asks for. -/
structure FieldTest where
  name : String
  value : Option String

/-- A level for the parts of the program whose names start with `target`. -/
structure Directive where
  target : String
  /-- The name of the span around the event. -/
  span : Option String
  field : Option FieldTest
  /-- The least important level that is shown; nothing is shown without one. -/
  level : Option Level

namespace Directive

/-- A directive for all events of some parts of the program. -/
def plain (target : String) (level : Option Level) : Directive :=
  ⟨target, none, none, level⟩

/-- Whether an event has the field that is asked for. -/
def fieldApplies (d : Directive) (e : Event) : Bool :=
  match d.field with
  | none => true
  | some ⟨name, none⟩ => e.fieldNames.contains name
  | some ⟨_, some _⟩ => false

/-- Whether a directive speaks about an event. -/
def appliesTo (d : Directive) (e : Event) : Bool :=
  d.span.isNone && d.target.toList.isPrefixOf e.target.toList && d.fieldApplies e

/-- The name of the field that is asked for, empty without one. -/
def fieldName (d : Directive) : String :=
  match d.field with
  | some test => test.name
  | none => ""

/-- Whether `d` decides where `best` does so far and both apply. -/
def replaces (d best : Directive) : Bool :=
  best.target.length < d.target.length ||
    (best.target.length = d.target.length && !(d.fieldName < best.fieldName))

end Directive

/-- Directives, later ones after earlier ones. -/
abbrev Filter := List Directive

namespace Filter

/-- The variable that replaces the filter of a run. -/
def variableName : String := "RUST_LOG"

/-- The filter of a run. -/
def standard (verbose : Bool) : Filter :=
  if verbose then [.plain "lto_node" (some .debug), .plain "lto_protocol" (some .debug)]
  else [.plain "lto_node" (some .info), .plain "lto_protocol" (some .warn)]

/-! ## §1. Deciding -/

/-- The directive that decides about an event. -/
def deciding (filter : Filter) (e : Event) : Option Directive :=
  filter.foldl
    (fun best d =>
      if d.appliesTo e then
        match best with
        | some b => if d.replaces b then some d else some b
        | none => some d
      else best)
    none

/-- Whether a filter lets an event through. -/
def shows (filter : Filter) (e : Event) : Bool :=
  match (deciding filter e).bind Directive.level with
  | some level => e.level.rank ≤ level.rank
  | none => false

/-! ## §2. Levels -/

/-- The level of a number; the inner result is missing where nothing is shown. -/
def levelOfNumber : Nat → Option (Option Level)
  | 0 => some none
  | 1 => some (some .error)
  | 2 => some (some .warn)
  | 3 => some (some .info)
  | 4 => some (some .debug)
  | 5 => some (some .trace)
  | _ => none

/-- The number that a text consists of, which may have a plus sign. -/
def readNumber (cs : List Char) : Option Nat :=
  let digits := match cs with
    | '+' :: digits => digits
    | _ => cs
  if digits.isEmpty || !digits.all Char.isDigit then none
  else some (digits.foldl (fun n c => n * 10 + (c.toNat - '0'.toNat)) 0)

/-- The level of a word or number. -/
def readLevel (cs : List Char) : Option (Option Level) :=
  match (String.ofList cs).toLower with
  | "off" => some none
  | "error" => some (some .error)
  | "warn" => some (some .warn)
  | "info" => some (some .info)
  | "debug" => some (some .debug)
  | "trace" => some (some .trace)
  | _ => (readNumber cs).bind levelOfNumber

/-! ## §3. Directives -/

/-- The pieces of a directive as they are written. -/
structure Written where
  target : List Char
  span : Option (List Char)
  field : Option (List Char)
  level : Option (List Char)

/-- Whether a directive can start with a character, when it does not start with a bracket. -/
def startsName (c : Char) : Bool :=
  Text.isLetterOrDigit c || c = '-' || c = ':' || c = '_'

/-- What may stand behind a closing bracket: a level, or only blanks. -/
def splitLevel (target : List Char) (span field : Option (List Char)) :
    List Char → Option Written
  | '=' :: level => some ⟨target, span, field, some level⟩
  | rest => if rest.all Text.isBlank then some ⟨target, span, field, none⟩ else none

/-- The pieces of a directive behind an opening bracket. -/
def splitBrackets (target cs : List Char) : Option Written :=
  let span := cs.takeWhile fun c => c ≠ ']' && c ≠ '{'
  match cs.drop span.length with
  | ']' :: rest => splitLevel target (some span) none rest
  | '{' :: rest =>
    let field := rest.takeWhile (· ≠ '}')
    match field, rest.drop field.length with
    | _ :: _, '}' :: ']' :: rest =>
      splitLevel target (if span.isEmpty then none else some span) (some field) rest
    | _, _ => none
  | _ => none

/-- The pieces of a directive. -/
def split : List Char → Option Written
  | [] => none
  | '[' :: rest => splitBrackets [] rest
  | c :: rest =>
    if startsName c then
      let name := (c :: rest).takeWhile fun c => c ≠ '=' && c ≠ '['
      match (c :: rest).drop name.length with
      | [] => some ⟨name, none, none, none⟩
      | '=' :: level => some ⟨name, none, none, some level⟩
      | _ :: rest => splitBrackets name rest
    else none

/-- Read the field that a directive asks for. -/
def readField (cs : List Char) : Option FieldTest :=
  let name := cs.takeWhile (· ≠ '=')
  match cs.drop name.length with
  | [] => some ⟨String.ofList name, none⟩
  | _ :: rest =>
    let value := rest.takeWhile (· ≠ '=')
    if Pattern.isWellFormed value then some ⟨String.ofList name, some (String.ofList value)⟩
    else none

/-- Read the level of a directive. Without one, or with an empty one, it shows everything. -/
def readWrittenLevel : Option (List Char) → Option (Option Level)
  | none => some (some .trace)
  | some [] => some (some .trace)
  | some cs => readLevel cs

/-- What the pieces of a directive mean. A word that stands alone is a level if it can be one. -/
def Written.read (w : Written) : Option Directive :=
  match w, readLevel w.target with
  | ⟨_, none, none, none⟩, some level => some (.plain "" level)
  | _, _ => do
    let field ← match w.field with
      | some cs => (readField cs).map some
      | none => some none
    let level ← readWrittenLevel w.level
    return ⟨String.ofList w.target, w.span.map String.ofList, field, level⟩

/-- The field of a directive with blanks in front, which is taken as many places too early. -/
def Written.earlyField (w : Written) (blanks : List Char) : Option (List Char) :=
  w.field.map fun field =>
    let front := w.target ++ '[' :: w.span.getD [] ++ ['{']
    ((blanks ++ front ++ field).drop front.length).take field.length

/-- Read one directive. Blanks count: a word with one behind it is not a level, and with blanks in
front a directive is about parts of the program whose names start with a blank, of which there are
none. It must then not name a level. -/
def readDirective (cs : List Char) : Option Directive := do
  let w ← split (cs.dropWhile Text.isBlank)
  match cs.takeWhile Text.isBlank, w.level with
  | [], _ => w.read
  | blanks, none =>
    let directive : Directive := .plain (String.ofList (blanks ++ w.target)) (some .trace)
    match w.earlyField blanks with
    | some field => (readField field).map fun test => { directive with field := some test }
    | none => some directive
  | _, some _ => none

/-! ## §4. Filters -/

/-- The parts of a text between commas. -/
def splitCommas : List Char → List (List Char)
  | [] => [[]]
  | ',' :: rest => [] :: splitCommas rest
  | c :: rest =>
    match splitCommas rest with
    | part :: parts => (c :: part) :: parts
    | [] => [[c]]

/-- Read a filter. Without any directive, only errors are shown. -/
def read (text : String) : Option Filter := do
  let parts := (splitCommas text.toList).filter fun part => !part.isEmpty
  let directives ← parts.mapM readDirective
  return if directives.isEmpty then [.plain "" (some .error)] else directives

/-- The filter of a run in which the variable has a value. One that cannot be read is ignored. -/
def ofVariable (value : Option String) (verbose : Bool) : Filter :=
  (value.bind read).getD (standard verbose)

end Filter

end Wallet.Log
