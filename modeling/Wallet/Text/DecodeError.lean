import Wallet.Text.Base58
import Wallet.Text.Base64

/-!
# Errors of the two text encodings

An error that comes up deep inside a document still says which of the two encodings failed.
-/

namespace Wallet

/-- Why a text field could not be decoded. -/
inductive DecodeError where
  | base58 (cause : Base58.Error)
  | base64 (cause : Base64.Error)
  deriving DecidableEq

def DecodeError.message : DecodeError → String
  | .base58 cause => "invalid base58: " ++ cause.message
  | .base64 cause => "invalid base64: " ++ cause.message

end Wallet
