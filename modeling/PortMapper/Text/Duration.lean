import PortMapper.Text.Decimal

/-!
# Times as text

A time is written in seconds if it reaches one, and in milliseconds below. Seconds have as many decimal
places as they need and no more; no time at all is written in nanoseconds.
-/

namespace PortMapper.Text.Duration

/-- The three decimal places of a number below a thousand. -/
def places (n : Nat) : Text :=
  (Decimal.write (1000 + n)).drop 1

/-- A text without the zeros at its end. -/
def dropZeros (text : Text) : Text :=
  (text.reverse.dropWhile (· == '0')).reverse

/-- A time in milliseconds. -/
def ofMilliseconds (n : Nat) : Text :=
  if n = 0 then "0ns".toList
  else if n < 1000 then Decimal.write n ++ "ms".toList
  else if n % 1000 = 0 then Decimal.write (n / 1000) ++ ['s']
  else Decimal.write (n / 1000) ++ '.' :: dropZeros (places (n % 1000)) ++ ['s']

example : ofMilliseconds 1500 = "1.5s".toList := by decide

example : ofMilliseconds 60 = "60ms".toList := by decide

example : ofMilliseconds 2007 = "2.007s".toList := by decide

end PortMapper.Text.Duration
