import PortMapper.Reply.Listing
import PortMapper.Text.Blank
import PortMapper.Text.Decimal

/-!
# Dumps

The answer to a dump request: for each node that is registered, and for each that was, a line with its
name, its port and the number of the connection that it registered on.
-/

namespace PortMapper

/-- Whether an entry of a dump is registered. -/
inductive DumpState
  | active
  | oldUnused
  deriving DecidableEq, Repr

/-- The word for a state in a dump. -/
def DumpState.label : DumpState → String
  | .active => "active"
  | .oldUnused => "old/unused"

/-- One entry of a dump. -/
structure DumpEntry where
  state : DumpState
  name : Text
  port : UInt16
  /-- The number of the connection that registered the node. -/
  fd : UInt64
  deriving DecidableEq, Repr

namespace DumpEntry

/-- How the line of an entry begins. -/
def lineStart (state : DumpState) : Text :=
  state.label.toList ++ " name\t".toList

def line (entry : DumpEntry) : Text :=
  lineStart entry.state ++ entry.name ++ " at port ".toList ++
    Text.Decimal.write entry.port.toNat ++ ", fd = ".toList ++
    Text.Decimal.write entry.fd.toNat

/-- The state that a line begins with, and the rest of the line. -/
def stateOfLine? (line : Text) : Option (DumpState × Text) :=
  match Text.dropStart? (lineStart .active) line with
  | some rest => some (.active, rest)
  | none => (Text.dropStart? (lineStart .oldUnused) line).map fun rest => (.oldUnused, rest)

/-- The entry of a line. Blanks around the number of the connection are allowed. -/
def ofLine? (line : Text) : Option DumpEntry := do
  let (state, rest) ← stateOfLine? line
  let (rest, fd) ← Text.cutLast? ", fd = ".toList rest
  let (name, port) ← Text.cutLast? " at port ".toList rest
  let port ← (Text.Decimal.readUInt16 port).toOption
  let fd ← (Text.Decimal.readUInt64 (Text.trim fd)).toOption
  return ⟨state, name, port, fd⟩

/-- The entry of a line, or the line itself as a failure. -/
def parse (line : Text) : Except WireError DumpEntry :=
  match ofLine? line with
  | some entry => .ok entry
  | none => .error (.malformedText "dump" line)

end DumpEntry

/-- The answer to a dump request. -/
structure Dump where
  /-- The port that the port mapper itself listens on. -/
  daemonPort : UInt32
  entries : List DumpEntry
  deriving DecidableEq, Repr

namespace Dump

def text (dump : Dump) : Text :=
  Listing.text (dump.entries.map DumpEntry.line)

def encode (dump : Dump) : Except WireError Bytes :=
  Listing.encode dump.daemonPort (dump.entries.map DumpEntry.line)

def decode (bytes : Bytes) : Except WireError Dump := do
  let (daemonPort, entries) ← Listing.decode DumpEntry.parse bytes
  return ⟨daemonPort, entries⟩

/-- The entries in a state, in the order of the dump. -/
def entriesIn (dump : Dump) (state : DumpState) : List DumpEntry :=
  dump.entries.filter (·.state = state)

end Dump

end PortMapper
