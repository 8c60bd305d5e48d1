import PortMapper.Settings.Environment
import PortMapper.Text.Lines

/-!
# Trees of files

What is at a path, given all files. A path is followed name by name, from the root if a slash stands in front
and from the working directory otherwise. An empty name and a single point stay where they are, two points go
up, and each of these needs a directory to start from.
-/

namespace PortMapper.Settings

/-- Files, by the names on the way to them from the root. -/
structure FileTree where
  /-- The entries that are known: one without content is a directory, like everything on the way to an
  entry. -/
  entries : List (List Text × Option Bytes)
  /-- The working directory. -/
  here : List Text := []

namespace FileTree

/-- From how many bytes on a path is too long to lead anywhere. -/
def pathLimit : Nat := 4096

/-- Whether there is something at a place. -/
def holds (tree : FileTree) (place : List Text) : Bool :=
  place.isEmpty || tree.entries.any fun entry => place.isPrefixOf entry.1

/-- The content of the file at a place. -/
def content? (tree : FileTree) (place : List Text) : Option Bytes :=
  (tree.entries.lookup place).join

def isDirectory (tree : FileTree) (place : List Text) : Bool :=
  tree.holds place && (tree.content? place).isNone

/-- Where the names of a path lead from a place, if there is something. -/
def follow (tree : FileTree) (place : List Text) : List Text → Option (List Text)
  | [] => if tree.holds place then some place else none
  | name :: rest =>
    if !tree.isDirectory place then none
    else if name.isEmpty || name = ".".toList then follow tree place rest
    else if name = "..".toList then follow tree place.dropLast rest
    else follow tree (place ++ [name]) rest

/-- What is at a path. -/
def file (tree : FileTree) (path : Text) : File :=
  if path.isEmpty || pathLimit ≤ (Text.Utf8.encode path).length then .absent
  else
    let start := if path.head? = some '/' then [] else tree.here
    match tree.follow start (Text.parts '/' path) with
    | none => .absent
    | some place =>
      match tree.content? place with
      | some bytes => .content bytes
      | none => .unreadable "Is a directory (os error 21)"

example : (FileTree.mk [(["a".toList, "b".toList], some [65])] []).file "/a/./../a//b".toList =
    .content [65] := by decide

example : (FileTree.mk [(["a".toList], some [65])] []).file "/a/".toList = .absent := by decide

end FileTree

end PortMapper.Settings
