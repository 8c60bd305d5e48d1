import PortMapper.NodeDescription

/-!
# Node infos

The answer to a lookup: the tag, a status, and, when the status is zero, the description of the node.
Any other status says that there is no such node, and ends the message whatever follows.
-/

namespace PortMapper

/-- The answer to a lookup. -/
inductive NodeInfo
  | found (node : NodeDescription)
  | notFound
  deriving DecidableEq, Repr

namespace NodeInfo

/-- The description that was found. -/
def description? : NodeInfo → Option NodeDescription
  | found node => some node
  | notFound => none

def isFound (info : NodeInfo) : Bool :=
  info.description?.isSome

/-- The answer that a lookup with this result gets. -/
def ofDescription? : Option NodeDescription → NodeInfo
  | some node => found node
  | none => notFound

def encode : NodeInfo → Except WireError Bytes
  | found node => do return Tag.port2Response.toByte :: 0 :: (← node.encode)
  | notFound => .ok [Tag.port2Response.toByte, 1]

/-- Reads an answer that fills what is left. -/
def reader : Reader NodeInfo := do
  Reader.tag .port2Response
  let status ← Reader.u8 "status"
  if status ≠ 0 then return notFound
  let node ← NodeDescription.reader
  Reader.finish (2 + node.wireLength)
  return found node

def decode (bytes : Bytes) : Except WireError NodeInfo :=
  reader.read bytes

end NodeInfo

end PortMapper
