import Wallet.Transaction.Error

/-!
# Script text

A compiled script travels as base64 behind the word `base64:`. Reading takes the text with or
without that word, once.
-/

namespace Wallet.Script

/-- What stands in front of the base64 text of a script. -/
def marker : String := "base64:"

/-- The text without the marker, if it starts with it. -/
def withoutMarker (text : String) : String :=
  if marker.toList.isPrefixOf text.toList then
    String.ofList (text.toList.drop marker.length)
  else text

/-- Read the text of a script. -/
def ofText (text : String) : Except TransactionError Bytes :=
  match Base64.decode (withoutMarker text) with
  | .ok script => .ok script
  | .error cause => .error (.decode (.base64 cause))

/-- The text of a script. -/
def toText (script : Bytes) : String :=
  marker ++ Base64.encode script

end Wallet.Script
