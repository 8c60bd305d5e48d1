import PortMapper.Reader
import PortMapper.Text.Latin1
import PortMapper.Text.Lines

/-!
# Listings

The answers that list nodes have one shape: the port mapper's own port in four bytes, and Latin-1 text
with one line for each entry. Blank lines are passed over when a listing is read.
-/

namespace PortMapper.Listing

/-- The text of a listing from the lines of its entries. -/
def text (lines : List Text) : Text :=
  Text.joinLines lines

def encode (daemonPort : UInt32) (lines : List Text) : Except WireError Bytes := do
  let body ← Text.Latin1.encode "listing" (text lines)
  return BigEndian.ofUInt32 daemonPort ++ body

/-- Reads the port and the text of a listing. -/
def reader : Reader (UInt32 × Text) := do
  let daemonPort ← Reader.u32 "daemon port"
  let body ← Reader.rest
  return (daemonPort, Text.Latin1.decode body)

/-- The lines of a listing's text that are not blank. -/
def entryLines (text : Text) : List Text :=
  text.lines.filter (!·.isEmpty)

/-- Reads a listing whose entries are read by `entry`; the first bad entry decides the failure. -/
def decode {α : Type} (entry : Text → Except WireError α) (bytes : Bytes) :
    Except WireError (UInt32 × List α) := do
  let (daemonPort, text) ← reader.read bytes
  let entries ← (entryLines text).mapM entry
  return (daemonPort, entries)

end PortMapper.Listing
