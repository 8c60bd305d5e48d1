import PortMapper.Json
import PortMapper.Reply.Dump
import PortMapper.Reply.Names

/-!
# Listings as JSON

A listing is an object with the port and the entries, and an entry an object with its fields, in the
order of their declaration.
-/

namespace PortMapper

/-- A name listing as a JSON value. -/
def NameListing.toJson (listing : NameListing) : Json :=
  .object [("port", .number listing.daemonPort.toNat),
    ("nodes", .list (listing.nodes.map fun entry =>
      .object [("name", .text entry.name), ("port", .number entry.port.toNat)]))]

/-- The word for a state in JSON. -/
def DumpState.jsonWord : DumpState → Text
  | .active => "active".toList
  | .oldUnused => "old_unused".toList

/-- A dump as a JSON value. -/
def Dump.toJson (dump : Dump) : Json :=
  .object [("port", .number dump.daemonPort.toNat),
    ("entries", .list (dump.entries.map fun entry =>
      .object [("state", .text entry.state.jsonWord), ("name", .text entry.name),
        ("port", .number entry.port.toNat), ("fd", .number entry.fd.toNat)]))]

end PortMapper
