import PortMapper.Toml.Basic
import PortMapper.Toml.Date
import PortMapper.Toml.Number
import PortMapper.Toml.Quoted

/-!
# Reading settings documents

A document is a list of statements, one on a line, in sections that headers start. Lists and braced tables
nest, but not without end: below `maxNesting` levels nothing is read, and a dotted key has fewer parts than
that. What a text means is settled by `Entries.ofText?`: no text has two meanings, and a text that breaks a
rule has none.
-/

namespace PortMapper.Toml

open Scan

/-- How deep values may nest, and how many parts a key may not reach. -/
def maxNesting : Nat := 80

/-- Whether a character may stand in a name without quotes. -/
def isBare (c : Char) : Bool :=
  c.isAlphanum || c == '_' || c == '-'

def name : Scan Text :=
  Quoted.key <|> do
    let bare ← span isBare
    guard (!bare.isEmpty)
    return bare

/-- A key: names with points between them. -/
def key : Scan Key := do
  let names ← separated '.' do
    blanks
    let name ← name
    blanks
    return name
  guard (names.length < maxNesting)
  match names.getLast? with
  | some last => return ⟨names.dropLast, last⟩
  | none => failure

/-- A value that is no list and no table. -/
def scalar : Scan Scalar :=
  (do return .text (← Quoted.text)) <|>
  (do word "true"; return .boolean true) <|>
  (do word "false"; return .boolean false) <|>
  (do Date.scan; return .dateTime) <|>
  (do Number.fraction; return .fraction) <|>
  (do return .integer (← Number.integer))

/-- A list of values. A comma may follow the last one. -/
def list (value : Scan Item) : Scan Item := do
  mark '['
  let elements ← separated ',' do
    gap
    let element ← value
    gap
    return element
  -- A comma needs a value in front of it.
  if !elements.isEmpty then
    let _ ← optional (mark ',')
  gap
  mark ']'
  return .list elements

/-- A key, and the value that it gets. -/
def assignment (value : Scan Item) : Scan (Key × Item) := do
  let key ← key
  mark '='
  blanks
  return (key, ← value)

/-- A table between braces, all on one line. -/
def braced (value : Scan Item) : Scan Item := do
  mark '\x7b'
  let statements ← separated ',' do
    let statement ← assignment value
    blanks
    return statement
  blanks
  mark '\x7d'
  match Entries.addAll [] statements with
  | some entries => return .table .braces entries
  | none => failure

/-- A value with fewer than so many levels of lists and tables. -/
def value : (levels : Nat) → Scan Item
  | 0 => failure
  -- Even an empty list would be one level too many here.
  | 1 => .scalar <$> scalar
  | levels + 1 => list (value levels) <|> braced (value levels) <|> .scalar <$> scalar

/-- What starts a section. -/
inductive Header
  | table (key : Key)
  /-- One of the tables that share a header. -/
  | element (key : Key)
  deriving DecidableEq, Repr

/-- The header of a section. -/
def header : Scan Header :=
  (do
    word "[["
    let key ← key
    word "]]"
    return .element key) <|>
  (do
    mark '['
    let key ← key
    mark ']'
    return .table key)

/-- One statement of a document. -/
inductive Statement
  | assign (key : Key) (value : Item)
  | start (header : Header)
  | nothing
  deriving Repr

/-- A statement with its line. -/
def statement : Scan Statement :=
  (do newLine; return .nothing) <|>
  (do comment; lineEnd; return .nothing) <|>
  (do
    let header ← header
    restOfLine
    return .start header) <|>
  (do
    let (key, value) ← assignment (value maxNesting)
    restOfLine
    return .assign key value)

/-- All statements of a text. A mark of the byte order in front does not count. -/
def statements : Scan (List Statement) := do
  let _ ← optional (mark '\ufeff')
  blanks
  let statements ← many do
    let statement ← statement
    blanks
    return statement
  finish
  return statements

/-- A header, or none in front of the first one, and the assignments below it. -/
structure Section where
  header : Option Header
  assignments : List (Key × Item)

/-- The sections that statements make, given the header above them. -/
def sections (header : Option Header) : List Statement → List Section
  | [] => [⟨header, []⟩]
  | .nothing :: rest => sections header rest
  | .start next :: rest => ⟨header, []⟩ :: sections (some next) rest
  | .assign key value :: rest =>
    match sections header rest with
    | [] => [⟨header, [(key, value)]⟩]
    | first :: others => { first with assignments := (key, value) :: first.assignments } :: others

namespace Entries

/-- Adds what a section holds. -/
def addSection (entries : Entries) (part : Section) : Option Entries :=
  match part.header with
  | none => entries.addAll part.assignments
  | some (.table key) => entries.addTable key part.assignments
  | some (.element key) => entries.addElement key part.assignments

/-- The entries of a document. -/
def ofText? (text : Text) : Option Entries := do
  let (statements, _) ← statements.run text
  (sections none statements).foldlM addSection []

end Entries

end PortMapper.Toml
