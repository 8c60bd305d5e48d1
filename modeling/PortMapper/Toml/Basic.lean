import PortMapper.Bytes

/-!
# Settings documents

What a document in the TOML format holds: a table of named items, which may be tables again. How a table
came to be decides what may be added to it later.

* A table with a header of its own, and one between braces, is complete: no other statement adds to it.
* A table that only the headers of its inner tables name may still get a header of its own.
* A table that dotted keys name is added to by dotted keys alone.

A name stands for one item, so adding one twice is refused.
-/

namespace PortMapper.Toml

/-- A value that is no list and no table. Of a fraction and of a date only the kind is kept. -/
inductive Scalar
  | text (value : Text)
  | integer (value : Int)
  | fraction
  | boolean (value : Bool)
  | dateTime
  deriving DecidableEq, Repr

/-- What named a table first. -/
inductive Origin
  /-- It stands between braces. -/
  | braces
  /-- It has a header of its own. -/
  | header
  /-- The header of an inner table. -/
  | innerHeader
  /-- A dotted key. -/
  | dottedKey
  deriving DecidableEq, Repr

/-- What a name in a table stands for. -/
inductive Item
  | scalar (value : Scalar)
  /-- Values between square brackets. -/
  | list (elements : List Item)
  | table (origin : Origin) (entries : List (Text × Item))
  /-- Tables that share a header in double brackets. -/
  | tables (elements : List (List (Text × Item)))
  deriving Repr

/-- The names of a table, in the order in which they were added, and their items. -/
abbrev Entries := List (Text × Item)

/-- A name, and the names of the tables on the way to it. -/
structure Key where
  tables : List Text
  name : Text
  deriving DecidableEq, Repr

namespace Entries

/-- The item of a name. -/
def find? (entries : Entries) (name : Text) : Option Item :=
  entries.lookup name

/-- Entries in which a name stands for an item, in its old place if it has one. -/
def assign (entries : Entries) (name : Text) (item : Item) : Entries :=
  if (entries.find? name).isSome then
    entries.map fun entry => if entry.1 = name then (name, item) else entry
  else entries ++ [(name, item)]

/-- Adds an item under a name that is not taken. -/
def add (entries : Entries) (name : Text) (item : Item) : Option Entries :=
  if (entries.find? name).isSome then none else some (entries ++ [(name, item)])

/-- Adds an item under a dotted key, given the names of the tables on the way. The table that gets the
item must have been named by dotted keys. -/
def addUnder (name : Text) (item : Item) : List Text → Entries → Option Entries
  | [], entries => entries.add name item
  | first :: inner, entries =>
    match entries.find? first with
    | none => do
      return entries.assign first (.table .dottedKey (← addUnder name item inner []))
    | some (.table .dottedKey old) => do
      return entries.assign first (.table .dottedKey (← addUnder name item inner old))
    -- The table of a header may be passed through, but it gets nothing itself.
    | some (.table .innerHeader old) =>
      if inner.isEmpty then none
      else do return entries.assign first (.table .innerHeader (← addUnder name item inner old))
    | some (.tables elements) =>
      if inner.isEmpty then none
      else do
        let last ← elements.getLast?
        return entries.assign first
          (.tables (elements.dropLast ++ [← addUnder name item inner last]))
    | some _ => none

/-- The entries of a table after statements that give values to keys. -/
def addAll (entries : Entries) (statements : List (Key × Item)) : Option Entries :=
  statements.foldlM (fun entries (key, item) => addUnder key.name item key.tables entries) entries

/-- Changes the table that a header leads to, given the names of the tables on the way. Of tables that
share a header the last one is meant. -/
def changeUnder (change : Entries → Option Entries) : List Text → Entries → Option Entries
  | [], entries => change entries
  | first :: inner, entries =>
    match entries.find? first with
    | none => do
      return entries.assign first (.table .innerHeader (← changeUnder change inner []))
    | some (.table .braces _) => none
    | some (.table origin old) => do
      return entries.assign first (.table origin (← changeUnder change inner old))
    | some (.tables elements) => do
      let last ← elements.getLast?
      return entries.assign first
        (.tables (elements.dropLast ++ [← changeUnder change inner last]))
    | some _ => none

/-- Adds a table with a header of its own. -/
def addTable (key : Key) (statements : List (Key × Item)) (entries : Entries) : Option Entries :=
  changeUnder
    (fun entries =>
      match entries.find? key.name with
      | none => do return entries.assign key.name (.table .header (← addAll [] statements))
      | some (.table .innerHeader old) => do
        return entries.assign key.name (.table .header (← addAll old statements))
      | some _ => none)
    key.tables entries

/-- Adds one of the tables that share a header. -/
def addElement (key : Key) (statements : List (Key × Item)) (entries : Entries) : Option Entries :=
  changeUnder
    (fun entries =>
      match entries.find? key.name with
      | none => do return entries.assign key.name (.tables [← addAll [] statements])
      | some (.tables elements) => do
        return entries.assign key.name (.tables (elements ++ [← addAll [] statements]))
      | some _ => none)
    key.tables entries

end Entries

end PortMapper.Toml
