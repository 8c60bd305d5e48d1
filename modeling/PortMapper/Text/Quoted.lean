import PortMapper.Text.Digits
import PortMapper.Text.Printable

/-!
# Quoted text

How messages show a text or a character that came from outside: between quotes, on one line, with
everything that cannot be seen written as an escape. The quote that encloses is escaped, the other
kind is not.
-/

namespace PortMapper.Text.Quoted

/-- One character of a quoted text, where `quote` is the mark that encloses it. -/
def escape (quote c : Char) : Text :=
  match c with
  | '\x00' => ['\\', '0']
  | '\t' => ['\\', 't']
  | '\r' => ['\\', 'r']
  | '\n' => ['\\', 'n']
  | '\\' => ['\\', '\\']
  | _ =>
    if c = quote then ['\\', c]
    else if isPrintable c then [c]
    else ['\\', 'u', '\x7b'] ++ hex c.toNat ++ ['\x7d']

/-- A text between double quotes. -/
def text (content : Text) : Text :=
  '"' :: content.flatMap (escape '"') ++ ['"']

/-- A character between single quotes. -/
def char (c : Char) : Text :=
  '\'' :: escape '\'' c ++ ['\'']

example : text ['a', '"', '\'', '\n'] = ['"', 'a', '\\', '"', '\'', '\\', 'n', '"'] := by decide

example : char '\'' = ['\'', '\\', '\'', '\''] := by decide

end PortMapper.Text.Quoted
