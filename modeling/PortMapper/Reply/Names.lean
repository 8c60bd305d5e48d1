import PortMapper.Reply.Listing
import PortMapper.Text.Blank
import PortMapper.Text.Decimal

/-!
# Name listings

The answer to a names request: for each node a line with its name and its port. The name may hold the
words around it: the last place where they stand is taken. Blanks around the port are allowed.
-/

namespace PortMapper

/-- A node's name and the port that it listens on. -/
structure NamedPort where
  name : Text
  port : UInt16
  deriving DecidableEq, Repr

namespace NamedPort

def line (entry : NamedPort) : Text :=
  "name ".toList ++ entry.name ++ " at port ".toList ++ Text.Decimal.write entry.port.toNat

def ofLine? (line : Text) : Option NamedPort := do
  let rest ← Text.dropStart? "name ".toList line
  let (name, port) ← Text.cutLast? " at port ".toList rest
  let port ← (Text.Decimal.readUInt16 (Text.trim port)).toOption
  return ⟨name, port⟩

/-- The node of a line, or the line itself as a failure. -/
def parse (line : Text) : Except WireError NamedPort :=
  match ofLine? line with
  | some entry => .ok entry
  | none => .error (.malformedText "names" line)

end NamedPort

/-- The answer to a names request. -/
structure NameListing where
  /-- The port that the port mapper itself listens on. -/
  daemonPort : UInt32
  nodes : List NamedPort
  deriving DecidableEq, Repr

namespace NameListing

def text (listing : NameListing) : Text :=
  Listing.text (listing.nodes.map NamedPort.line)

def encode (listing : NameListing) : Except WireError Bytes :=
  Listing.encode listing.daemonPort (listing.nodes.map NamedPort.line)

def decode (bytes : Bytes) : Except WireError NameListing := do
  let (daemonPort, nodes) ← Listing.decode NamedPort.parse bytes
  return ⟨daemonPort, nodes⟩

end NameListing

end PortMapper
