import PortMapper.Text.Digits

/-!
# Scanning

A scanner takes something from the front of a text and leaves the rest, or refuses the text. When the
first of two scanners refuses, the second one starts at the same place. Blanks are spaces and tabs; a line
ends with a line feed, which may have a carriage return in front.
-/

namespace PortMapper.Toml

/-- Takes a value from the front of a text. -/
abbrev Scan := StateT Text Option

namespace Scan

/-- The next character, if it is one of those allowed. -/
def one (allowed : Char → Bool) : Scan Char := fun text =>
  match text with
  | c :: rest => if allowed c then some (c, rest) else none
  | [] => none

/-- A character that must come next. -/
def mark (c : Char) : Scan Unit := do
  let _ ← one (· == c)

/-- Characters that must come next. -/
def word (w : String) : Scan Unit := fun text =>
  if w.toList.isPrefixOf text then some ((), text.drop w.toList.length) else none

/-- The allowed characters that come next, maybe none. -/
def span (allowed : Char → Bool) : Scan Text := fun text =>
  some (text.takeWhile allowed, text.dropWhile allowed)

/-- Nothing, where the text ends. -/
def finish : Scan Unit := fun text =>
  if text.isEmpty then some ((), text) else none

/-- At most `most` times what a scanner takes, until it refuses. -/
def times {α : Type} (scan : Scan α) : (most : Nat) → Scan (List α)
  | 0 => return []
  | most + 1 => (do return (← scan) :: (← times scan most)) <|> return []

/-- What a scanner takes again and again until it refuses, at most once for each character of a text. -/
def along {α : Type} (scan : Scan α) : (turns : Text) → Scan (List α)
  | [] => return []
  | _ :: turns => (do return (← scan) :: (← along scan turns)) <|> return []

/-- What a scanner takes again and again until it refuses. The scanner takes at least one character
each time, so there are no more turns than characters. -/
def many {α : Type} (scan : Scan α) : Scan (List α) := do
  along scan (← get)

/-- What a scanner takes, again after each separator; maybe nothing. -/
def separated {α : Type} (separator : Char) (scan : Scan α) : Scan (List α) :=
  (do return (← scan) :: (← many do mark separator; scan)) <|> return []

/-- Blanks, maybe none. -/
def blanks : Scan Unit := do
  let _ ← span fun c => c == ' ' || c == '\t'

def newLine : Scan Unit :=
  mark '\n' <|> word "\r\n"

/-- Whether a character is a tab or no control character of ASCII. -/
def isVisible (c : Char) : Bool :=
  c == '\t' || (0x20 ≤ c.toNat && c.toNat != 0x7f)

def comment : Scan Unit := do
  mark '#'
  let _ ← span isVisible

/-- The end of a line or of the text. -/
def lineEnd : Scan Unit :=
  newLine <|> finish

/-- What may follow a statement on its line: blanks and a comment. -/
def restOfLine : Scan Unit := do
  blanks
  let _ ← optional comment
  lineEnd

/-- Blanks, ends of lines and comments, maybe none. -/
def gap : Scan Unit := do
  blanks
  let _ ← many do
    newLine <|> (do comment; newLine)
    blanks

def digit (base : Nat) : Scan Char :=
  one (Text.isDigit base)

/-- Digits of a base; between two of them an underscore may stand, which does not count. -/
def digits (base : Nat) : Scan Text := do
  let first ← digit base
  let rest ← many (digit base <|> (do mark '_'; digit base))
  return first :: rest

/-- A number of so many decimal digits that lies between two bounds. -/
def numberOf (count low high : Nat) : Scan Nat := do
  let text ← times (digit 10) count
  let value := Text.numberOf 10 text
  guard (text.length = count ∧ low ≤ value ∧ value ≤ high)
  return value

end Scan

end PortMapper.Toml
