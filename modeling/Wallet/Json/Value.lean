import Wallet.Json.Binary64

/-!
# JSON values

The documents that the node and the wallet exchange. Integers are kept apart from floating point
numbers: a number is an integer only if it was written without point and exponent and fits 64
bits, and only integers are accepted where an amount is expected.

An object is a list of fields in ascending order of their names, each name once. `insertField`
keeps that order, and a later value replaces an earlier one.
-/

namespace Wallet

namespace Json

/-- A number, as it was written. -/
inductive Number where
  | integer (i : Int)
  | float (x : Binary64)
  deriving DecidableEq

end Json

/-- A JSON value. -/
inductive Json where
  | null
  | bool (b : Bool)
  | number (n : Json.Number)
  | string (s : String)
  | array (items : List Json)
  | object (fields : List (String × Json))

namespace Json

/-! ## §1. Building -/

/-- An integer. -/
def integer (i : Int) : Json :=
  .number (.integer i)

/-- A natural number. -/
def natural (n : Nat) : Json :=
  .number (.integer n)

/-- Give a field a value, in the order of names. -/
def insertField (name : String) (value : Json) : List (String × Json) → List (String × Json)
  | [] => [(name, value)]
  | (other, kept) :: rest =>
    if name < other then (name, value) :: (other, kept) :: rest
    else if name = other then (name, value) :: rest
    else (other, kept) :: insertField name value rest

/-- Take a field away. -/
def eraseField (name : String) (fields : List (String × Json)) : List (String × Json) :=
  fields.filter fun field => field.1 ≠ name

/-- An object from fields in any order, of which the last of each name counts. -/
def ofFields (fields : List (String × Json)) : Json :=
  .object (fields.foldl (fun done field => insertField field.1 field.2 done) [])

/-- A field for a value that may be absent. -/
def optionalField (name : String) (value : Option Json) : List (String × Json) :=
  match value with
  | some value => [(name, value)]
  | none => []

/-! ## §2. Reading -/

/-- The value of a field. -/
def field? (fields : List (String × Json)) (name : String) : Option Json :=
  (fields.find? fun field => field.1 = name).map Prod.snd

/-- The value of a field, if this is an object that has it. -/
def get? (v : Json) (name : String) : Option Json :=
  match v with
  | .object fields => field? fields name
  | _ => none

/-- Whether this is `null`. -/
def isNull : Json → Bool
  | .null => true
  | _ => false

/-- An integer from zero up to `2 ^ 64 - 1`. -/
def asUnsigned? : Json → Option UInt64
  | .number (.integer i) => if 0 ≤ i ∧ i < UInt64.size then some (UInt64.ofNat i.toNat) else none
  | _ => none

/-- An integer from `-2 ^ 63` up to `2 ^ 63 - 1`. -/
def asSigned? : Json → Option Int64
  | .number (.integer i) =>
    if Int64.minValue.toInt ≤ i ∧ i ≤ Int64.maxValue.toInt then some (Int64.ofInt i) else none
  | _ => none

def asString? : Json → Option String
  | .string s => some s
  | _ => none

def asArray? : Json → Option (List Json)
  | .array items => some items
  | _ => none

def asObject? : Json → Option (List (String × Json))
  | .object fields => some fields
  | _ => none

end Json

end Wallet
