import Wallet.Text.Symbol

/-!
# Patterns for the values of fields

A filter can ask for the value of a field, as a truth value, a number or a pattern. Only whether
such a text is well formed is decided here.

A pattern is well formed if its groups and classes are closed, if every `*`, `+` and `?` stands
behind something that can be repeated, and if every backslash is followed by something that has a
meaning. Counted repetitions need braces, which the value of a field cannot hold.

Patterns are about all characters, but properties of characters are known for ASCII only. So sets
such as `\d`, word boundaries and comparison without case need `(?-u)` in front, which restricts
what follows to ASCII; there in turn nothing may stand for a part of another character, as a dot,
`\D` or `[^a]` would.
-/

namespace Wallet.Log.Pattern

/-- The options that hold at a place in a pattern. -/
structure Options where
  /-- `i`: upper and lower case are the same. -/
  ignoreCase : Bool
  /-- `u`: all characters, not only ASCII. -/
  unicode : Bool
  /-- `x`: blanks and comments do not count. -/
  spaced : Bool

namespace Options

/-- The options at the start of a pattern. -/
def standard : Options :=
  ⟨false, true, false⟩

/-- The options after letters that switch options on, and behind a minus off. -/
def after (options : Options) (on : Bool) : List Char → Options
  | [] => options
  | '-' :: rest => options.after false rest
  | 'i' :: rest => after { options with ignoreCase := on } on rest
  | 'u' :: rest => after { options with unicode := on } on rest
  | 'x' :: rest => after { options with spaced := on } on rest
  | _ :: rest => options.after on rest

/-- Whether a character can stand for itself: the case of characters beyond ASCII is not known. -/
def allowsLiteral (options : Options) : Bool :=
  !(options.unicode && options.ignoreCase)

end Options

/-- Skip blanks and comments, which reach from a number sign to the end of the line. -/
def skipSpace (comment : Bool) : List Char → List Char
  | [] => []
  | c :: rest =>
    if comment then skipSpace (c ≠ '\n') rest
    else if c = '#' then skipSpace true rest
    else if Text.isBlank c then skipSpace false rest
    else c :: rest

/-- Skip what does not count under the options. -/
def skip (options : Options) (cs : List Char) : List Char :=
  if options.spaced then skipSpace false cs else cs

/-! ## §1. Escapes -/

/-- The code of a number of hexadecimal digits, which must be that of a character, and the text
behind them. -/
def readHex (digits : Nat) (cs : List Char) : Option (Nat × List Char) :=
  let code := cs.take digits
  if code.length = digits && code.all fun c => c.isDigit || ('a' ≤ c.toLower && c.toLower ≤ 'f')
  then
    let value := code.foldl
      (fun n c => 16 * n + if c.isDigit then c.toNat - 48 else c.toLower.toNat - 87) 0
    if value.isValidChar then some (value, cs.drop digits) else none
  else none

/-- What a backslash can introduce. -/
inductive Escape where
  /-- One character. -/
  | literal (code : Nat)
  /-- One character, or one byte where only ASCII counts. -/
  | byte (code : Nat)
  /-- Digits, blanks or word characters, or all but those. -/
  | set (negated : Bool)
  /-- The start or the end of the text. -/
  | place
  /-- A place with a word on one side. -/
  | boundary

/-- The letters that stand for one character behind a backslash. -/
def controlCodes : List (Char × Nat) :=
  [('a', 7), ('t', 9), ('n', 10), ('v', 11), ('f', 12), ('r', 13)]

/-- Read what follows a backslash. -/
def readEscape : List Char → Option (Escape × List Char)
  | [] => none
  | 'x' :: rest => (readHex 2 rest).map fun (code, rest) => (.byte code, rest)
  | 'u' :: rest => (readHex 4 rest).map fun (code, rest) => (.literal code, rest)
  | 'U' :: rest => (readHex 8 rest).map fun (code, rest) => (.literal code, rest)
  | c :: rest =>
    if ['d', 's', 'w'].contains c then some (.set false, rest)
    else if ['D', 'S', 'W'].contains c then some (.set true, rest)
    else if ['A', 'z'].contains c then some (.place, rest)
    else if ['b', 'B', '<', '>'].contains c then some (.boundary, rest)
    else
      match controlCodes.lookup c with
      | some code => some (.literal code, rest)
      | none =>
        if c.toNat < 128 && !c.isAlphanum then some (.literal c.toNat, rest) else none

/-- Whether an escape can stand outside classes. -/
def Escape.stands (options : Options) : Escape → Bool
  | .literal _ => options.allowsLiteral
  | .byte code => if options.unicode then options.allowsLiteral else code < 128
  | .set negated => !options.unicode && !negated
  | .place => true
  | .boundary => !options.unicode

/-! ## §2. Classes -/

/-- The names of the classes that stand between `[:` and `:]`. -/
def classNames : List String :=
  ["alnum", "alpha", "ascii", "blank", "cntrl", "digit", "graph", "lower", "print", "punct",
    "space", "upper", "word", "xdigit"]

/-- Whether a named class stands behind a bracket and is negated, and the text behind it. -/
def readNamed : List Char → Option (Bool × List Char)
  | ':' :: cs =>
    let negated : Bool := cs.head? = some '^'
    let cs := if negated then cs.drop 1 else cs
    let name := cs.takeWhile (· ≠ ':')
    match cs.drop name.length with
    | ':' :: ']' :: rest =>
      if classNames.contains (String.ofList name) then some (negated, rest) else none
    | _ => none
  | _ => none

/-- A character in a class, which must be ASCII where only that counts. -/
def member (options : Options) (code : Nat) (rest : List Char) :
    Option (Option Nat × List Char) :=
  if options.unicode || code < 128 then some (some code, rest) else none

/-- Read one member of a class: its code if it is a single character, and the text behind it. -/
def readMember (options : Options) : List Char → Option (Option Nat × List Char)
  | [] => none
  | '\\' :: rest =>
    match readEscape rest with
    | some (.literal code, rest) => member options code rest
    | some (.byte code, rest) => member options code rest
    | some (.set negated, rest) =>
      if options.unicode || negated then none else some (none, rest)
    | _ => none
  | c :: rest => member options c.toNat rest

/-- The text behind dashes at the start of a class, which stand for themselves. -/
def skipDashes (options : Options) : List Char → List Char
  | [] => []
  | c :: rest =>
    if c = '-' then skipDashes options rest
    else if options.spaced && Text.isBlank c then skipDashes options rest
    else c :: rest

/-- The text behind the opening of a class: a bracket that comes first is not its end. -/
def afterOpening (options : Options) (cs : List Char) : Option (List Char) :=
  let cs := skip options cs
  let negated : Bool := cs.head? = some '^'
  let cs := if negated then skip options (cs.drop 1) else cs
  if negated && !options.unicode then none
  else
    match cs with
    | ']' :: rest => some rest
    | _ => some (skipDashes options cs)

/-- The text behind a class that stands inside `outer` other classes, which end with it. -/
def afterClass (options : Options) : (fuel outer : Nat) → List Char → Option (List Char)
  | 0, _, _ => none
  | fuel + 1, outer, cs =>
    match skip options cs with
    | [] => none
    | ']' :: rest => if outer = 0 then some rest else afterClass options fuel (outer - 1) rest
    | '&' :: '&' :: rest => afterClass options fuel outer rest
    | '-' :: '-' :: rest => afterClass options fuel outer rest
    | '~' :: '~' :: rest => afterClass options fuel outer rest
    | '[' :: rest =>
      match readNamed rest with
      | some (negated, rest) =>
        if negated && !options.unicode then none else afterClass options fuel outer rest
      | none => do afterClass options fuel (outer + 1) (← afterOpening options rest)
    | cs => do
      let (low, rest) ← readMember options cs
      match skip options rest with
      | '-' :: rest =>
        let more := skip options rest
        if more.head? = some ']' || more.head? = some '-' then
          afterClass options fuel outer ('-' :: rest)
        else
          let (high, rest) ← readMember options more
          match low, high with
          | some low, some high =>
            if low ≤ high then afterClass options fuel outer rest else none
          | _, _ => none
      | rest => afterClass options fuel outer rest

/-- The text behind a class, from behind its opening bracket. -/
def readClass (options : Options) (cs : List Char) : Option (List Char) :=
  if options.allowsLiteral then
    (afterOpening options cs).bind (afterClass options (cs.length + 1) 0)
  else none

/-! ## §3. Groups -/

/-- Whether letters that switch options on, and behind a minus off, are well formed. -/
def areOptions (cs : List Char) : Bool :=
  cs.all (['i', 'm', 's', 'U', 'u', 'R', 'x', '-'].contains ·) && cs.Nodup &&
    cs.getLast? ≠ some '-'

/-- Whether a text can name a group. -/
def isGroupName : List Char → Bool
  | [] => false
  | c :: rest =>
    (c = '_' || (Text.isLetterOrDigit c && !c.isDigit)) &&
      rest.all fun c => Text.isLetterOrDigit c || ['_', '.', '[', ']'].contains c

/-- How a parenthesis goes on. -/
inductive Opening where
  /-- A group with options of its own. -/
  | group (options : Options)
  | named (name : List Char)
  /-- Options for what follows, without a group. -/
  | options (options : Options)

/-- Read the name of a group. -/
def readName (cs : List Char) : Option (Opening × List Char) :=
  let name := cs.takeWhile (· ≠ '>')
  match cs.drop name.length with
  | _ :: rest => if isGroupName name then some (.named name, rest) else none
  | [] => none

/-- Read what follows an opening parenthesis. -/
def readOpening (options : Options) : List Char → Option (Opening × List Char)
  | '?' :: 'P' :: '<' :: rest => readName rest
  | '?' :: '<' :: rest => readName rest
  | '?' :: rest =>
    let letters := rest.takeWhile fun c => c ≠ ':' && c ≠ ')'
    if areOptions letters then
      match rest.drop letters.length with
      | ':' :: rest => some (.group (options.after true letters), rest)
      | _ :: rest =>
        if letters.isEmpty then none else some (.options (options.after true letters), rest)
      | [] => none
    else none
  | cs => some (.group options, cs)

/-! ## §4. Patterns -/

/-- A place in a pattern. -/
structure Place where
  options : Options
  /-- The options in front of the groups that are open, the innermost first. -/
  outer : List Options
  /-- The names of groups so far, of which no two are the same. -/
  names : List (List Char)
  /-- Whether something stands in front that can be repeated. -/
  operand : Bool

/-- The place at the start of a pattern. -/
def Place.start : Place :=
  ⟨.standard, [], [], false⟩

/-- Whether the rest of a pattern is well formed. -/
def isRest : (fuel : Nat) → Place → List Char → Bool
  | 0, _, _ => false
  | fuel + 1, p, cs =>
    match skip p.options cs with
    | [] => p.outer.isEmpty
    | '(' :: rest =>
      match readOpening p.options (skip p.options rest) with
      | some (.group options, rest) =>
        isRest fuel ⟨options, p.options :: p.outer, p.names, false⟩ rest
      | some (.named name, rest) =>
        !p.names.contains name &&
          isRest fuel ⟨p.options, p.options :: p.outer, name :: p.names, false⟩ rest
      | some (.options options, rest) =>
        isRest fuel { p with options := options, operand := false } rest
      | none => false
    | ')' :: rest =>
      match p.outer with
      | options :: outer => isRest fuel ⟨options, outer, p.names, true⟩ rest
      | [] => false
    | '[' :: rest =>
      match readClass p.options rest with
      | some rest => isRest fuel { p with operand := true } rest
      | none => false
    | '\\' :: rest =>
      match readEscape rest with
      | some (escape, rest) =>
        escape.stands p.options && isRest fuel { p with operand := true } rest
      | none => false
    | c :: rest =>
      if c = '|' then isRest fuel { p with operand := false } rest
      else if c = '*' || c = '+' || c = '?' then p.operand && isRest fuel p rest
      else if c = '{' then false
      else
        (c = '^' || c = '$' || (if c = '.' then p.options.unicode else p.options.allowsLiteral)) &&
          isRest fuel { p with operand := true } rest

/-- Whether a text is a decimal number without a sign, or names one that is not finite. -/
def isNumeral (cs : List Char) : Bool :=
  let whole := cs.takeWhile Char.isDigit
  let rest := cs.drop whole.length
  let fraction := match rest with
    | '.' :: rest => rest.takeWhile Char.isDigit
    | _ => []
  let rest := match rest with
    | '.' :: rest => rest.drop fraction.length
    | _ => rest
  let exponent := match rest with
    | [] => true
    | e :: '+' :: digits => e.toLower = 'e' && !digits.isEmpty && digits.all Char.isDigit
    | e :: '-' :: digits => e.toLower = 'e' && !digits.isEmpty && digits.all Char.isDigit
    | e :: digits => e.toLower = 'e' && !digits.isEmpty && digits.all Char.isDigit
  (!(whole.isEmpty && fraction.isEmpty) && exponent) ||
    ["inf", "infinity", "nan"].contains (String.ofList cs).toLower

/-- Whether a text can be the value of a field in a filter. A number with a plus sign is no
pattern, but it is a number. -/
def isWellFormed (cs : List Char) : Bool :=
  isRest (cs.length + 1) .start cs ||
    match cs with
    | '+' :: rest => isNumeral rest
    | _ => false

end Wallet.Log.Pattern
