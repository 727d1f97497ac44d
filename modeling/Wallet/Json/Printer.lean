import Wallet.Json.Value

/-!
# JSON as text

`compact` writes a value without any blanks, which is the form that is sent to a node. `pretty`
indents by two blanks per level, which is the form that is shown.

In strings the quote, the backslash and the control characters are escaped; everything else
stands for itself.
-/

namespace Wallet.Json

/-- One character inside a string. -/
def escape (c : Char) : List Char :=
  match c with
  | '"' => ['\\', '"']
  | '\\' => ['\\', '\\']
  | '\n' => ['\\', 'n']
  | '\r' => ['\\', 'r']
  | '\t' => ['\\', 't']
  | c =>
    if c.toNat = 8 then ['\\', 'b']
    else if c.toNat = 12 then ['\\', 'f']
    else if c.toNat < 32 then
      ['\\', 'u', '0', '0', Nat.digitChar (c.toNat / 16), Nat.digitChar (c.toNat % 16)]
    else [c]

/-- A string in quotes. -/
def quote (s : String) : List Char :=
  '"' :: (s.toList.flatMap escape ++ ['"'])

/-- The text of a number. -/
def Number.chars : Number → List Char
  | .integer i => (toString i).toList
  | .float x => x.render.toList

/-- Things with a separator between them. -/
def separated (separator : List Char) : List (List Char) → List Char
  | [] => []
  | [x] => x
  | x :: y :: rest => x ++ separator ++ separated separator (y :: rest)

mutual

/-- A value without blanks. -/
def chars : Json → List Char
  | .null => "null".toList
  | .bool true => "true".toList
  | .bool false => "false".toList
  | .number n => n.chars
  | .string s => quote s
  | .array items => '[' :: (separated [','] (itemChars items) ++ [']'])
  | .object fields => '\x7b' :: (separated [','] (fieldChars fields) ++ ['\x7d'])

def itemChars : List Json → List (List Char)
  | [] => []
  | item :: rest => item.chars :: itemChars rest

def fieldChars : List (String × Json) → List (List Char)
  | [] => []
  | (name, value) :: rest => (quote name ++ ':' :: value.chars) :: fieldChars rest

end

/-- The text of a value without blanks. -/
def compact (v : Json) : String :=
  String.ofList v.chars

/-- A new line at a level of indentation. -/
def newline (level : Nat) : List Char :=
  '\n' :: List.replicate (2 * level) ' '

/-- Members between brackets, one to a line. -/
def block (level : Nat) (opening closing : Char) (members : List (List Char)) : List Char :=
  if members.isEmpty then [opening, closing]
  else opening :: (newline (level + 1) ++ separated (',' :: newline (level + 1)) members ++
    newline level ++ [closing])

mutual

/-- A value with one member to a line. -/
def prettyChars (level : Nat) : Json → List Char
  | .array items => block level '[' ']' (prettyItems (level + 1) items)
  | .object fields => block level '\x7b' '\x7d' (prettyFields (level + 1) fields)
  | .null => "null".toList
  | .bool true => "true".toList
  | .bool false => "false".toList
  | .number n => n.chars
  | .string s => quote s

def prettyItems (level : Nat) : List Json → List (List Char)
  | [] => []
  | item :: rest => item.prettyChars level :: prettyItems level rest

def prettyFields (level : Nat) : List (String × Json) → List (List Char)
  | [] => []
  | (name, value) :: rest =>
    (quote name ++ ':' :: ' ' :: value.prettyChars level) :: prettyFields level rest

end

/-- The text of a value with one member to a line. -/
def pretty (v : Json) : String :=
  String.ofList (v.prettyChars 0)

end Wallet.Json
