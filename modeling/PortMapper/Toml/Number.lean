import PortMapper.Toml.Scan

/-!
# Numbers in settings documents

An integer is decimal, with an optional sign and no zero in front, or has a mark for base sixteen, eight or
two and no sign. It has 64 bits, one of them for the sign. A fraction has a point, an exponent or both, or
is a word; one that lies above everything that a double-precision number can hold is refused. An exponent
counts up to the digit that takes it to a limit far outside that range.
-/

namespace PortMapper.Toml.Number

open Scan

/-- An optional sign: whether it is a minus. -/
def sign : Scan Bool := do
  match ← optional (one fun c => c == '+' || c == '-') with
  | some c => return c == '-'
  | none => return false

/-- The digits of a decimal number without a zero in front. -/
def whole : Scan Text :=
  (do mark '0'; return ['0']) <|> digits 10

/-- The number that digits make. One with more than 64 digits, zeros in front left out, is too large in every
base and is not worked out. -/
def size (base : Nat) (digits : Text) : Scan Nat := do
  guard ((digits.dropWhile (· == '0')).length ≤ 64)
  return Text.numberOf base digits

/-- An integer of 64 bits. -/
def bounded (value : Int) : Scan Int := do
  guard (-9223372036854775808 ≤ value ∧ value ≤ 9223372036854775807)
  return value

def decimal : Scan Int := do
  let negative ← sign
  let size ← size 10 (← whole)
  bounded (if negative then -(size : Int) else size)

/-- An integer with a mark for its base. -/
def based (start : String) (base : Nat) : Scan Int := do
  word start
  bounded (← size base (← digits base))

def integer : Scan Int :=
  based "0x" 16 <|> based "0o" 8 <|> based "0b" 2 <|> decimal

/-- The least number that rounds above every double-precision number: the largest of them and half a
step more. -/
def overflow : Nat := (1 <<< 1024) - (1 <<< 970)

/-- Whether the number with these digits and a power of ten rounds above every double-precision number. A
number with `n` digits in front of its point is less than the `n`-th power of ten, and not less than the
one before; the limit has 309 digits. -/
def overflows (digits : Text) (exponent : Int) : Bool :=
  let significant := digits.dropWhile (· == '0')
  let places : Int := significant.length + exponent
  if significant.isEmpty ∨ places < 309 then false
  else if places > 309 then true
  else if 0 ≤ exponent then
    overflow ≤ Text.numberOf 10 significant * Nat.pow 10 exponent.toNat
  else
    overflow * Nat.pow 10 (-exponent).toNat ≤ Text.numberOf 10 significant

/-- From where on an exponent does not grow. -/
def exponentLimit : Nat := 65536

/-- The size of an exponent with these digits: the number that they make, up to the first of them that
takes it to the limit. All digits behind that one are passed over. -/
def exponentSize (digits : Text) : Nat :=
  digits.foldl (fun size c =>
    if size < exponentLimit then size * 10 + (Text.digit? 10 c).getD 0 else size) 0

def exponent : Scan Int := do
  let _ ← one fun c => c == 'e' || c == 'E'
  let negative ← sign
  let size := exponentSize (← digits 10)
  return if negative then -(size : Int) else size

example : exponentSize "65535".toList = 65535 ∧ exponentSize "0655351".toList = 655351 ∧
    exponentSize "655360".toList = 65536 := by decide

/-- A fraction with digits. -/
def digitFraction : Scan Unit := do
  let negative ← sign
  let front ← whole
  let (behind, power) ←
    (do return ([], ← exponent)) <|> do
      mark '.'
      let behind ← digits 10
      return (behind, (← optional exponent).getD 0)
  -- Only the upper end is watched: a number far below zero is taken.
  guard (negative ∨ ¬ overflows (front ++ behind) (power - behind.length))

def fraction : Scan Unit :=
  digitFraction <|> do
    let _ ← sign
    word "inf" <|> word "nan"

end PortMapper.Toml.Number
