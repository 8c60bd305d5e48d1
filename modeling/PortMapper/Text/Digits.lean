import PortMapper.Bytes

/-!
# Digits

The digits of the bases up to sixteen. Letters are written in lower case and read in either.
-/

namespace PortMapper.Text

/-- The value of a character as a digit. -/
def digitValue (c : Char) : Option Nat :=
  if '0' ≤ c ∧ c ≤ '9' then some (c.toNat - 0x30)
  else if 'a' ≤ c ∧ c ≤ 'f' then some (c.toNat - 0x57)
  else if 'A' ≤ c ∧ c ≤ 'F' then some (c.toNat - 0x37)
  else none

/-- The value of a character as a digit of the given base. -/
def digit? (base : Nat) (c : Char) : Option Nat :=
  (digitValue c).filter (· < base)

def isDigit (base : Nat) (c : Char) : Bool :=
  (digit? base c).isSome

/-- The number that digits of the given base make; other characters count as zero. -/
def numberOf (base : Nat) (digits : Text) : Nat :=
  digits.foldl (fun value c => value * base + (digit? base c).getD 0) 0

/-- The digits of a number in base sixteen, with no leading zero. -/
def hex (n : Nat) : Text :=
  Nat.toDigits 16 n

example : numberOf 16 (hex 48879) = 48879 := by decide

end PortMapper.Text
