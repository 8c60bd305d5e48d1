import PortMapper.Bytes

/-!
# Lines and separators

A text is cut into lines at each line feed. A carriage return in front of a line feed belongs to the
line end, one at the end of a text without a line feed does not, and nothing follows a line feed
that ends the text. A field of a line ends where its separator stands for the last time.
-/

namespace PortMapper.Text

/-- What follows `start` in a text that begins with it. -/
def dropStart? (start text : Text) : Option Text :=
  if start.isPrefixOf text then some (text.drop start.length) else none

/-- Cuts a text at the first place where `mark` stands; `before` holds, reversed, what was passed. -/
def cutFirst? (mark before : Text) : Text → Option (Text × Text)
  | [] => if mark.isEmpty then some (before, []) else none
  | c :: rest =>
    if mark.isPrefixOf (c :: rest) then some (before, (c :: rest).drop mark.length)
    else cutFirst? mark (c :: before) rest

/-- What stands before and after the last place where `mark` stands in a text. -/
def cutLast? (mark text : Text) : Option (Text × Text) :=
  (cutFirst? mark.reverse [] text.reverse).map fun (after, before) => (before.reverse, after)

/-- The parts of a text before, between and after the places where `mark` stands. -/
def parts (mark : Char) (text : Text) : List Text :=
  text.foldr
    (fun c parts =>
      if c = mark then [] :: parts
      else
        match parts with
        | [] => [[c]]
        | part :: rest => (c :: part) :: rest)
    [[]]

/-- A line without the carriage return that belongs to its end. -/
def dropReturn (line : Text) : Text :=
  if line.getLast? = some '\r' then line.dropLast else line

/-- Drops the line ends: each part but the last was ended by a line feed. -/
def closeLines : List Text → List Text
  | [] => []
  | [last] => if last.isEmpty then [] else [last]
  | line :: rest => dropReturn line :: closeLines rest

def lines (text : Text) : List Text :=
  closeLines (parts '\n' text)

/-- Lines put together, a line feed between each two. -/
def joinLines (lines : List Text) : Text :=
  ['\n'].intercalate lines

example : lines ['a', '\r', '\n', 'b', '\r'] = [['a'], ['b', '\r']] := by decide

example : lines ['a', '\n', '\n'] = [['a'], []] := by decide

example : cutLast? ['-', '-'] ['a', '-', '-', '-'] = some (['a', '-'], []) := by decide

end PortMapper.Text
