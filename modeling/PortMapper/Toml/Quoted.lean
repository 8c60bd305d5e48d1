import PortMapper.Toml.Scan

/-!
# Quoted text in settings documents

Text stands between quotes of two kinds. Between double quotes a backslash starts an escape, between single
quotes nothing is special. Three quotes of a kind enclose text of several lines: a line end right behind
the opening quotes does not count, every other one is a line feed, up to two quotes may stand together in
the text, also at its end, and a backslash at the end of a line between double quotes takes away all blanks
and line ends up to the next character.
-/

namespace PortMapper.Toml.Quoted

open Scan

/-- Whether a character stands for itself between quotes of a kind. -/
def isPlain (quote c : Char) : Bool :=
  isVisible c && c != quote && (quote != '"' || c != '\\')

/-- The character with a number of so many digits in base sixteen. -/
def numbered (count : Nat) : Scan Char := do
  let text ← times (digit 16) count
  let value := Text.numberOf 16 text
  guard (text.length = count ∧ value.isValidChar)
  return Char.ofNat value

/-- What stands behind a backslash. -/
def escaped : Scan Char := do
  match ← one fun _ => true with
  | 'b' => return '\x08'
  | 't' => return '\t'
  | 'n' => return '\n'
  | 'f' => return '\x0c'
  | 'r' => return '\r'
  | '"' => return '"'
  | '\\' => return '\\'
  | 'u' => numbered 4
  | 'U' => numbered 8
  | _ => failure

/-- One character of a text between quotes of a kind. -/
def character (quote : Char) : Scan Char :=
  one (isPlain quote) <|> do
    guard (quote = '"')
    mark '\\'
    escaped

/-- Text on one line. -/
def line (quote : Char) : Scan Text := do
  mark quote
  let content ← many (character quote)
  mark quote
  return content

/-- A backslash at the end of a line, with the blanks and line ends that it takes away. -/
def continuation : Scan Unit := do
  mark '\\'
  blanks
  newLine
  let _ ← many (newLine <|> (do let _ ← one fun c => c == ' ' || c == '\t'))

/-- One or two quotes that do not end a text of several lines. -/
def innerQuotes (quote : Char) : Scan Text := do
  let quotes ← span (· == quote)
  guard (quotes.length = 1 ∨ quotes.length = 2)
  return quotes

/-- The quotes that end a text of several lines, and up to two in front that belong to it. -/
def closingQuotes (quote : Char) : Scan Text := do
  let quotes ← times (mark quote) 5
  guard (3 ≤ quotes.length)
  return List.replicate (quotes.length - 3) quote

/-- A part of a text of several lines. -/
def piece (quote : Char) : Scan Text :=
  (do return [← one (isPlain quote)]) <|>
  (do newLine; return ['\n']) <|>
  innerQuotes quote <|> do
    guard (quote = '"')
    (do continuation; return []) <|> (do mark '\\'; return [← escaped])

/-- Text of several lines. -/
def block (quote : Char) : Scan Text := do
  word (String.ofList [quote, quote, quote])
  let _ ← optional newLine
  let content ← many (piece quote)
  return content.flatten ++ (← closingQuotes quote)

/-- Text of one line between quotes of either kind. -/
def key : Scan Text :=
  line '"' <|> line '\''

/-- Text between quotes of either kind. -/
def text : Scan Text :=
  block '"' <|> line '"' <|> block '\'' <|> line '\''

end PortMapper.Toml.Quoted
