import PortMapper.Reader
import PortMapper.Text.Latin1

/-!
# Node descriptions

What a node says about itself when it registers, and what a lookup hands on: its port, its codes, its
name and some bytes of its own. On the wire these are the port, the two code bytes, the two
versions, and the name and the extra bytes as short fields.
-/

namespace PortMapper

/-- What a node says about itself. -/
structure NodeDescription where
  port : UInt16
  nodeType : NodeType := .r6Erlang
  protocol : Protocol := .tcp
  highest : Version := .r6
  lowest : Version := .r6
  /-- The name without its host part. -/
  name : Text
  /-- Bytes that the node wants its peers to have. -/
  extra : Bytes := []
  deriving DecidableEq, Repr

namespace NodeDescription

def encode (node : NodeDescription) : Except WireError Bytes := do
  let name ← Text.Latin1.encode "name" node.name
  let nameField ← shortField "name" name
  let extraField ← shortField "extra" node.extra
  return BigEndian.ofUInt16 node.port ++ node.nodeType.toByte :: node.protocol.toByte ::
    (BigEndian.ofUInt16 node.highest.toWord ++ BigEndian.ofUInt16 node.lowest.toWord ++
      nameField ++ extraField)

/-- Reads a description; what follows it is left. -/
def reader : Reader NodeDescription := do
  let port ← Reader.u16 "port"
  let nodeType ← Reader.u8 "node type"
  let protocol ← Reader.u8 "protocol"
  let highest ← Reader.u16 "highest version"
  let lowest ← Reader.u16 "lowest version"
  let name ← Reader.short "name"
  let extra ← Reader.short "extra"
  return {
    port
    nodeType := NodeType.ofByte nodeType
    protocol := Protocol.ofByte protocol
    highest := Version.ofWord highest
    lowest := Version.ofWord lowest
    name := Text.Latin1.decode name
    extra }

/-- How many bytes the description takes on the wire. -/
def wireLength (node : NodeDescription) : Nat :=
  12 + node.name.length + node.extra.length

/-- The description with each code that has a name under that name. -/
def normalise (node : NodeDescription) : NodeDescription :=
  { node with
    nodeType := NodeType.ofByte node.nodeType.toByte
    protocol := Protocol.ofByte node.protocol.toByte
    highest := Version.ofWord node.highest.toWord
    lowest := Version.ofWord node.lowest.toWord }

end NodeDescription

end PortMapper
