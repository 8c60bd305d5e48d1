import PortMapper.Text.Quoted
import PortMapper.Text.Decimal

/-!
# JSON text

The values that listings are made of, and how they are laid out: one member or element on a line,
indented by two spaces for each level, and nothing between the brackets of an empty list.
-/

namespace PortMapper

/-- A JSON value. -/
inductive Json
  | text (value : Text)
  | number (value : Nat)
  | list (elements : List Json)
  | object (members : List (String × Json))
  deriving Repr

namespace Json

/-- One character of a JSON string. -/
def escape (c : Char) : Text :=
  match c with
  | '"' => ['\\', '"']
  | '\\' => ['\\', '\\']
  | '\x08' => ['\\', 'b']
  | '\x0c' => ['\\', 'f']
  | '\n' => ['\\', 'n']
  | '\r' => ['\\', 'r']
  | '\t' => ['\\', 't']
  | _ =>
    if c.toNat < 0x10 then ['\\', 'u', '0', '0', '0'] ++ Text.hex c.toNat
    else if c.toNat < 0x20 then ['\\', 'u', '0', '0'] ++ Text.hex c.toNat
    else [c]

def quote (value : Text) : Text :=
  '"' :: value.flatMap escape ++ ['"']

/-- A new line at a level of nesting. -/
def newLine (level : Nat) : Text :=
  '\n' :: List.replicate (2 * level) ' '

/-- The parts of a list or an object between its brackets, a comma after each but the last. -/
def bracket (opening closing : Char) (level : Nat) (parts : List Text) : Text :=
  if parts.isEmpty then [opening, closing]
  else
    opening :: (',' :: newLine (level + 1)).intercalate (parts.modifyHead (newLine (level + 1) ++ ·)) ++
      newLine level ++ [closing]

mutual

/-- The text of a value that stands at a level of nesting. -/
def render (level : Nat) : Json → Text
  | text value => quote value
  | number value => Text.Decimal.write value
  | list elements => bracket '[' ']' level (renderElements (level + 1) elements)
  | object members => bracket '\x7b' '\x7d' level (renderMembers (level + 1) members)

def renderElements (level : Nat) : List Json → List Text
  | [] => []
  | element :: rest => render level element :: renderElements level rest

def renderMembers (level : Nat) : List (String × Json) → List Text
  | [] => []
  | (name, value) :: rest =>
    (quote name.toList ++ ": ".toList ++ render level value) :: renderMembers level rest

end

end Json

end PortMapper
