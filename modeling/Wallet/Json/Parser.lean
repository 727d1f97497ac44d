import Wallet.Json.Value

/-!
# Reading JSON text

A strict reader: no comments, no trailing commas, no leading zeros, at most 127 levels of
brackets, and escapes that spell whole characters. There are two ways to fail. A text is
`truncated` if it ends where more had to follow, and `malformed` if something else stands there;
which of the two is decided at the first place that does not fit.

Each function returns what it has read and what remains of the text. The fuel bounds the number
of steps and is set from the length of the text, which is never used up.
-/

namespace Wallet.Json

/-- Why a text is not JSON. -/
inductive Fault where
  | truncated
  | malformed
  deriving DecidableEq

/-! ## §1. Characters -/

def isBlank (c : Char) : Bool :=
  c = ' ' || c = '\t' || c = '\n' || c = '\r'

/-- Skip blanks. -/
def skip (cs : List Char) : List Char :=
  cs.dropWhile isBlank

/-- Split off the digits at the start, as values. -/
def takeDigits (cs : List Char) : List Nat × List Char :=
  ((cs.takeWhile Char.isDigit).map fun c => c.toNat - '0'.toNat, cs.dropWhile Char.isDigit)

/-- Demand the given characters. -/
def expect : (word : List Char) → List Char → Except Fault (List Char)
  | [], cs => .ok cs
  | _ :: _, [] => .error .truncated
  | w :: word, c :: cs => if c = w then expect word cs else .error .malformed

/-! ## §2. Numbers -/

/-- Extend a significand of 64 bits by as many digits as fit. Returns it with the number of
digits taken and the number left. -/
def accumulate (significand taken : Nat) : List Nat → Nat × Nat × Nat
  | [] => (significand, taken, 0)
  | d :: ds =>
    if significand * 10 + d < UInt64.size then accumulate (significand * 10 + d) (taken + 1) ds
    else (significand, taken, (d :: ds).length)

/-- Close a number that is not an integer. -/
def closeFloat (negative : Bool) (significand : Nat) (exponent : Int) (rest : List Char) :
    Except Fault (Number × List Char) :=
  match Binary64.ofDecimal negative significand exponent with
  | some x => .ok (.float x, rest)
  | none => .error .malformed

/-- Read an exponent, if there is one, and close the number. -/
def parseExponent (negative : Bool) (significand : Nat) (exponent : Int) (cs : List Char) :
    Except Fault (Number × List Char) :=
  match cs with
  | e :: rest =>
    if e = 'e' ∨ e = 'E' then
      let (down, rest) := match rest with
        | '-' :: rest => (true, rest)
        | '+' :: rest => (false, rest)
        | rest => (false, rest)
      match takeDigits rest with
      | ([], []) => .error .truncated
      | ([], _ :: _) => .error .malformed
      | (ds, rest) =>
        let shift : Int := Radix.value 10 ds
        closeFloat negative significand (if down then exponent - shift else exponent + shift) rest
    else closeFloat negative significand exponent cs
  | [] => closeFloat negative significand exponent []

/-- Read what may follow the digits before the point: `skipped` of them did not fit. -/
def parseFraction (negative : Bool) (significand skipped : Nat) (cs : List Char) :
    Except Fault (Number × List Char) :=
  match cs with
  | '.' :: rest =>
    match takeDigits rest with
    | ([], []) => .error .truncated
    | ([], _ :: _) => .error .malformed
    | (ds, rest) =>
      -- Digits behind the point that do not fit are dropped and do not move the point.
      let (significand, taken, _) := accumulate significand 0 ds
      parseExponent negative significand ((skipped : Int) - taken) rest
  | cs => parseExponent negative significand skipped cs

/-- Whether a number goes on behind its digits. -/
def continuesNumber : List Char → Bool
  | c :: _ => c = '.' || c = 'e' || c = 'E'
  | [] => false

/-- Read a number behind its sign. -/
def parseUnsigned (negative : Bool) (cs : List Char) : Except Fault (Number × List Char) :=
  match takeDigits cs with
  | ([], []) => .error .truncated
  | ([], _ :: _) => .error .malformed
  -- A zero in front has to stand alone.
  | (0 :: _ :: _, _) => .error .malformed
  | (ds, rest) =>
    let (significand, _, skipped) := accumulate 0 0 ds
    -- Digits that do not fit make a number a float even without a point.
    if continuesNumber rest || skipped ≠ 0 then parseFraction negative significand skipped rest
    else if !negative then .ok (.integer significand, rest)
    else if 0 < significand ∧ significand ≤ Nat.pow 2 63 then .ok (.integer (-significand), rest)
    -- Zero with a sign, and integers below the range of 64 bits.
    else closeFloat true significand 0 rest

/-- Read a number. -/
def parseNumber (cs : List Char) : Except Fault (Number × List Char) :=
  match cs with
  | '-' :: rest => parseUnsigned true rest
  | cs => parseUnsigned false cs

/-! ## §3. Strings -/

/-- The value of a hexadecimal digit in either case. -/
def hexValue? (c : Char) : Option Nat :=
  if '0' ≤ c ∧ c ≤ '9' then some (c.toNat - '0'.toNat)
  else if 'a' ≤ c ∧ c ≤ 'f' then some (c.toNat - 'a'.toNat + 10)
  else if 'A' ≤ c ∧ c ≤ 'F' then some (c.toNat - 'A'.toNat + 10)
  else none

/-- The number of bytes that characters take. -/
def byteCount (cs : List Char) : Nat :=
  cs.foldl (fun n c => n + c.utf8Size) 0

/-- Read the four digits of an escape. -/
def parseHex4 (cs : List Char) : Except Fault (Nat × List Char) :=
  -- The end of the text is noticed by bytes, which characters beyond ASCII use up faster.
  if byteCount (cs.take 4) < 4 then .error .truncated
  else match cs with
    | a :: b :: c :: d :: rest =>
      match hexValue? a, hexValue? b, hexValue? c, hexValue? d with
      | some a, some b, some c, some d => .ok (((a * 16 + b) * 16 + c) * 16 + d, rest)
      | _, _, _, _ => .error .malformed
    | _ => .error .malformed

/-- Read an escape behind `\u`. A high surrogate must be followed by the escape of a low one. -/
def parseUnicode (cs : List Char) : Except Fault (Char × List Char) := do
  let (n, rest) ← parseHex4 cs
  if n < 0xd800 ∨ 0xdfff < n then .ok (Char.ofNat n, rest)
  else if 0xdc00 ≤ n then .error .malformed
  else do
    let rest ← expect ['\\', 'u'] rest
    let (m, rest) ← parseHex4 rest
    if m < 0xdc00 ∨ 0xdfff < m then .error .malformed
    else .ok (Char.ofNat (0x10000 + (n - 0xd800) * 0x400 + (m - 0xdc00)), rest)

/-- Read an escape behind its backslash. -/
def parseEscape (cs : List Char) : Except Fault (Char × List Char) :=
  match cs with
  | [] => .error .truncated
  | '"' :: rest => .ok ('"', rest)
  | '\\' :: rest => .ok ('\\', rest)
  | '/' :: rest => .ok ('/', rest)
  | 'b' :: rest => .ok ('\x08', rest)
  | 'f' :: rest => .ok ('\x0c', rest)
  | 'n' :: rest => .ok ('\n', rest)
  | 'r' :: rest => .ok ('\r', rest)
  | 't' :: rest => .ok ('\t', rest)
  | 'u' :: rest => parseUnicode rest
  | _ => .error .malformed

/-- Read a string behind its opening quote. `done` holds its characters so far, latest first. -/
def parseString : (fuel : Nat) → (done : List Char) → List Char → Except Fault (String × List Char)
  | 0, _, _ => .error .malformed
  | _ + 1, _, [] => .error .truncated
  | fuel + 1, done, c :: rest =>
    if c = '"' then .ok (String.ofList done.reverse, rest)
    else if c = '\\' then
      match parseEscape rest with
      | .ok (c, rest) => parseString fuel (c :: done) rest
      | .error fault => .error fault
    else if c.toNat < 32 then .error .malformed
    else parseString fuel (c :: done) rest

/-! ## §4. Values -/

/-- Read the name of a field and its colon. -/
def parseName (fuel : Nat) (cs : List Char) : Except Fault (String × List Char) := do
  match cs with
  | '"' :: rest =>
    let (name, rest) ← parseString fuel [] rest
    match skip rest with
    | ':' :: rest => .ok (name, rest)
    | [] => .error .truncated
    | _ => .error .malformed
  | _ => .error .malformed

mutual

/-- Read a value. `depth` counts the levels of brackets that may still be opened. -/
def parseValue : (fuel depth : Nat) → List Char → Except Fault (Json × List Char)
  | 0, _, _ => .error .malformed
  | fuel + 1, depth, cs =>
    match skip cs with
    | [] => .error .truncated
    | c :: rest =>
      match c with
      | 'n' => return (.null, ← expect "ull".toList rest)
      | 't' => return (.bool true, ← expect "rue".toList rest)
      | 'f' => return (.bool false, ← expect "alse".toList rest)
      | '"' => do
        let (s, rest) ← parseString (fuel + 1) [] rest
        return (.string s, rest)
      | '[' =>
        match depth with
        | 0 => .error .malformed
        | depth + 1 =>
          match skip rest with
          | ']' :: rest => .ok (.array [], rest)
          | [] => .error .truncated
          | cs => parseItems fuel depth [] cs
      | '\x7b' =>
        match depth with
        | 0 => .error .malformed
        | depth + 1 =>
          match skip rest with
          | '\x7d' :: rest => .ok (.object [], rest)
          | [] => .error .truncated
          | cs => parseFields fuel depth [] cs
      | c =>
        if c = '-' ∨ c.isDigit then do
          let (n, rest) ← parseNumber (c :: rest)
          return (.number n, rest)
        else .error .malformed

/-- Read items up to the closing bracket; `done` holds the items so far, latest first. -/
def parseItems : (fuel depth : Nat) → (done : List Json) → List Char →
    Except Fault (Json × List Char)
  | 0, _, _, _ => .error .malformed
  | fuel + 1, depth, done, cs =>
    match parseValue fuel depth cs with
    | .error fault => .error fault
    | .ok (item, rest) =>
      match skip rest with
      | ']' :: rest => .ok (.array (item :: done).reverse, rest)
      | ',' :: rest =>
        match skip rest with
        | ']' :: _ => .error .malformed
        | [] => .error .truncated
        | cs => parseItems fuel depth (item :: done) cs
      | [] => .error .truncated
      | _ => .error .malformed

/-- Read fields up to the closing brace; `done` holds the fields so far. -/
def parseFields : (fuel depth : Nat) → (done : List (String × Json)) → List Char →
    Except Fault (Json × List Char)
  | 0, _, _, _ => .error .malformed
  | fuel + 1, depth, done, cs =>
    match parseName (fuel + 1) cs with
    | .error fault => .error fault
    | .ok (name, rest) =>
      match parseValue fuel depth rest with
      | .error fault => .error fault
      | .ok (value, rest) =>
        match skip rest with
        | '\x7d' :: rest => .ok (.object (insertField name value done), rest)
        | ',' :: rest =>
          match skip rest with
          | [] => .error .truncated
          | cs => parseFields fuel depth (insertField name value done) cs
        | [] => .error .truncated
        | _ => .error .malformed

end

/-- The number of levels of brackets that a text may open. -/
def depthLimit : Nat := 127

/-- Read a text as one value with nothing but blanks around it. -/
def parseChars (cs : List Char) : Except Fault Json :=
  match parseValue (2 * cs.length + 2) depthLimit cs with
  | .error fault => .error fault
  | .ok (v, rest) => if (skip rest).isEmpty then .ok v else .error .malformed

/-- Read a text. -/
def parse (text : String) : Except Fault Json :=
  parseChars text.toList

/-! ## §5. One step

What a reader does with the next thing that stands there. A run of a reader is a row of such
steps, so nothing else has to look into the readers. -/

section Step

variable {fuel depth : Nat} {cs behind more next rest : List Char} {c : Char}

theorem parseString_close (done : List Char) :
    parseString (fuel + 1) done ('"' :: rest) = .ok (String.ofList done.reverse, rest) := by
  rw [parseString, if_pos rfl]

/-- A character that stands for itself. -/
theorem parseString_keep (hquote : c ≠ '"') (hslash : c ≠ '\\') (hcontrol : ¬ c.toNat < 32)
    (done : List Char) :
    parseString (fuel + 1) done (c :: rest) = parseString fuel (c :: done) rest := by
  rw [parseString, if_neg hquote, if_neg hslash, if_neg hcontrol]

theorem parseString_unescape (hescape : parseEscape cs = .ok (c, rest)) (done : List Char) :
    parseString (fuel + 1) done ('\\' :: cs) = parseString fuel (c :: done) rest := by
  rw [parseString, if_neg (by decide), if_pos rfl, hescape]

/-- What a value is read as depends on what stands behind the blanks. -/
theorem parseValue_congr {ds : List Char} (hskip : skip cs = skip ds) :
    parseValue fuel depth cs = parseValue fuel depth ds := by
  cases fuel with
  | zero => rw [parseValue, parseValue]
  | succ fuel => rw [parseValue, parseValue, hskip]

section Items

variable {item : Json} (hitem : parseValue fuel depth cs = .ok (item, behind))

include hitem

/-- The bracket behind an item closes the array. -/
theorem parseItems_last (hclose : skip behind = ']' :: rest) (done : List Json) :
    parseItems (fuel + 1) depth done cs = .ok (.array (done.reverse ++ [item]), rest) := by
  rw [parseItems, hitem]
  simp only [hclose, List.reverse_cons]

/-- A comma behind an item leads to the next one, which is not the bracket. -/
theorem parseItems_next (hcomma : skip behind = ',' :: more) (hmore : skip more = c :: next)
    (hc : c ≠ ']') (done : List Json) :
    parseItems (fuel + 1) depth done cs = parseItems fuel depth (item :: done) (c :: next) := by
  rw [parseItems, hitem]
  simp only [hcomma, hmore]
  split
  · next heq => exact absurd (List.cons.inj heq).1 hc
  · next heq => cases heq
  · rfl

end Items

section Fields

variable {name : String} {value : Json} {colon : List Char}
  (hname : parseName (fuel + 1) cs = .ok (name, colon))
  (hvalue : parseValue fuel depth colon = .ok (value, behind))

include hname hvalue

/-- The brace behind a field closes the object. -/
theorem parseFields_last (hclose : skip behind = '\x7d' :: rest) (done : List (String × Json)) :
    parseFields (fuel + 1) depth done cs = .ok (.object (insertField name value done), rest) := by
  rw [parseFields, hname]
  simp only [hvalue, hclose]

/-- A comma behind a field leads to the next one. -/
theorem parseFields_next (hcomma : skip behind = ',' :: more) (hmore : skip more = c :: next)
    (done : List (String × Json)) :
    parseFields (fuel + 1) depth done cs =
      parseFields fuel depth (insertField name value done) (c :: next) := by
  rw [parseFields, hname]
  simp only [hvalue, hcomma, hmore]

end Fields

end Step

end Wallet.Json
