import Wallet.Text.Printable

/-!
# Quoted characters

Error texts show an offending character in single quotes. Characters that would not be seen, or
that would attach themselves to the quote, are written as escapes.
-/

namespace Wallet.Text

/-- The lower-case hexadecimal digits of a number. -/
def hexDigits (n : Nat) : String :=
  String.ofList (Nat.toDigits 16 n)

/-- A character with escapes for what is not visible. -/
def escapedChar (c : Char) : String :=
  match c with
  | '\x00' => "\\0"
  | '\t' => "\\t"
  | '\n' => "\\n"
  | '\r' => "\\r"
  | '\'' => "\\'"
  | '\\' => "\\\\"
  | c => if isPrintable c then String.singleton c else "\\u\x7b" ++ hexDigits c.toNat ++ "\x7d"

/-- A character in single quotes. -/
def quotedChar (c : Char) : String :=
  "'" ++ escapedChar c ++ "'"

end Wallet.Text
