/-!
# Durations as text

A duration is a number of milliseconds. It is shown in seconds when there is at least one, with
as many decimals as it needs, and in milliseconds below that.
-/

namespace Wallet.Text

/-- The decimals of a fraction of a second, without trailing zeros. -/
def secondDecimals (millis : Nat) : String :=
  if millis % 1000 = 0 then ""
  else if millis % 100 = 0 then s!".{millis % 1000 / 100}"
  else
    let hundreds := millis % 1000 / 100
    let tens := millis / 10 % 10
    if millis % 10 = 0 then s!".{hundreds}{tens}" else s!".{hundreds}{tens}{millis % 10}"

/-- The text of a duration; no time at all is counted in the smallest unit. -/
def duration (millis : Nat) : String :=
  if millis = 0 then "0ns"
  else if millis < 1000 then s!"{millis}ms"
  else s!"{millis / 1000}{secondDecimals millis}s"

end Wallet.Text
