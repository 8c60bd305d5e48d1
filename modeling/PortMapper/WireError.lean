import PortMapper.Code
import PortMapper.Text.Quoted

/-!
# Wire errors

Why bytes could not be read as a message, or a message could not be written as bytes.
-/

namespace PortMapper

/-- A failure to write or to read a message. Fields and texts are called by their names. -/
inductive WireError
  | unexpectedTag (expected found : Tag)
  | unsupportedTag (tag : Tag)
  | lengthMismatch (declared available : Nat)
  | truncatedField (field : String) (needed available : Nat)
  | fieldTooLong (field : String) (length limit : Nat)
  | notLatin1 (field : String) (char : Char)
  | malformedText (what : String) (line : Text)
  | unknownStatus (what : String) (status : Text)
  deriving DecidableEq, Repr

namespace WireError

def message : WireError → String
  | unexpectedTag expected found =>
    s!"unexpected tag: expected {expected.describe}, found {found.describe}"
  | unsupportedTag tag => s!"unsupported request tag {tag.describe}"
  | lengthMismatch declared available =>
    s!"length mismatch: declared {declared} bytes, {available} available"
  | truncatedField field needed available =>
    s!"truncated {field}: needed {needed} bytes, {available} available"
  | fieldTooLong field length limit =>
    s!"{field} is {length} bytes, the wire allows at most {limit}"
  | notLatin1 field char =>
    s!"{field} contains {String.ofList (Text.Quoted.char char)}, which is not Latin-1"
  | malformedText what line => s!"malformed {what} line: {String.ofList (Text.Quoted.text line)}"
  | unknownStatus what status =>
    s!"unknown {what} status {String.ofList (Text.Quoted.text status)}"

end WireError

end PortMapper
