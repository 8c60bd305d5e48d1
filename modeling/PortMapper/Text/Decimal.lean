import PortMapper.Text.Digits

/-!
# Decimal numbers

A number is written in base ten with no leading zero. It is read digit by digit from the left, a plus
sign in front being allowed, and must not exceed a limit: the first digit that is none, or that
takes the number over the limit, decides the failure.
-/

namespace PortMapper.Text.Decimal

/-- Why a text is no number of the wanted size. -/
inductive Failure
  | empty
  | invalidDigit
  | tooLarge
  deriving DecidableEq, Repr

def Failure.message : Failure → String
  | .empty => "cannot parse integer from empty string"
  | .invalidDigit => "invalid digit found in string"
  | .tooLarge => "number too large to fit in target type"

/-- Reads digits behind a number that is already `value`. -/
def readDigits (limit value : Nat) : Text → Except Failure Nat
  | [] => .ok value
  | c :: rest =>
    match digit? 10 c with
    | none => .error .invalidDigit
    | some digit =>
      if value * 10 + digit ≤ limit then readDigits limit (value * 10 + digit) rest
      else .error .tooLarge

/-- Reads a number of at most `limit`. -/
def read (limit : Nat) : Text → Except Failure Nat
  | [] => .error .empty
  | ['+'] => .error .invalidDigit
  | '+' :: digits => readDigits limit 0 digits
  | digits => readDigits limit 0 digits

def write (n : Nat) : Text :=
  Nat.toDigits 10 n

def readUInt16 (text : Text) : Except Failure UInt16 :=
  (read 65535 text).map UInt16.ofNat

def readUInt64 (text : Text) : Except Failure UInt64 :=
  (read 18446744073709551615 text).map UInt64.ofNat

example : read 65535 ['6', '5', '5', '3', '6', 'x'] = .error .tooLarge := rfl

example : read 65535 ['6', '5', '5', '3', 'x'] = .error .invalidDigit := rfl

example : read 65535 (write 65535) = .ok 65535 := rfl

end PortMapper.Text.Decimal
