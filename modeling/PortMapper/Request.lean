import PortMapper.Frame
import PortMapper.NodeDescription

/-!
# Requests

What a client may ask of the port mapper. Each kind of request has its tag. A name that is asked for
fills the rest of the frame, so it has no length of its own.
-/

namespace PortMapper

inductive RequestKind
  | registration
  | nodeInfo
  | names
  | dump
  | kill
  | stop
  deriving DecidableEq, Repr

namespace RequestKind

def tag : RequestKind → Tag
  | registration => .alive2Request
  | nodeInfo => .portPlease2Request
  | names => .namesRequest
  | dump => .dumpRequest
  | kill => .killRequest
  | stop => .stopRequest

/-- The kind of request with a tag, if there is one. -/
def ofTag? : Tag → Option RequestKind
  | .alive2Request => some registration
  | .portPlease2Request => some nodeInfo
  | .namesRequest => some names
  | .dumpRequest => some dump
  | .killRequest => some kill
  | .stopRequest => some stop
  | _ => none

@[simp] theorem ofTag?_tag (kind : RequestKind) : ofTag? kind.tag = some kind := by
  cases kind <;> rfl

end RequestKind

/-- A request to the port mapper. -/
inductive Request
  /-- Register a node, and hold its name while the connection is open. -/
  | registration (node : NodeDescription)
  /-- Where the node of this name listens. -/
  | nodeInfo (name : Text)
  /-- The names and ports of all nodes. -/
  | names
  /-- All nodes and those that left. -/
  | dump
  /-- Drop every node and stop. -/
  | kill
  /-- Drop the node of this name. -/
  | stop (name : Text)
  deriving DecidableEq, Repr

namespace Request

def kind : Request → RequestKind
  | registration _ => .registration
  | nodeInfo _ => .nodeInfo
  | names => .names
  | dump => .dump
  | kill => .kill
  | stop _ => .stop

def tag (request : Request) : Tag :=
  request.kind.tag

/-- The body of a request's frame. -/
def encodeBody : Request → Except WireError Bytes
  | registration node => node.encode
  | nodeInfo name => Text.Latin1.encode "name" name
  | stop name => Text.Latin1.encode "name" name
  | names => .ok []
  | dump => .ok []
  | kill => .ok []

def encode (request : Request) : Except WireError Bytes := do
  let body ← request.encodeBody
  Frame.write request.tag body

/-- Reads a body of the given kind. -/
def bodyReader : RequestKind → Reader Request
  | .registration => do
    let node ← NodeDescription.reader
    Reader.finish node.wireLength
    return registration node
  | .nodeInfo => do return nodeInfo (Text.Latin1.decode (← Reader.rest))
  | .stop => do return stop (Text.Latin1.decode (← Reader.rest))
  | .names => do
    Reader.finish 0
    return names
  | .dump => do
    Reader.finish 0
    return dump
  | .kill => do
    Reader.finish 0
    return kill

/-- The request with the given tag and body. -/
def decodeBody (tag : Tag) (body : Bytes) : Except WireError Request :=
  match RequestKind.ofTag? tag with
  | some kind => (bodyReader kind).read body
  | none => .error (.unsupportedTag tag)

/-- The request of a frame, whatever its kind. -/
def decode (frame : Bytes) : Except WireError Request := do
  let (tag, body) ← Frame.split frame
  decodeBody tag body

/-- The request of a frame that must be of the given kind. -/
def decodeAs (kind : RequestKind) (frame : Bytes) : Except WireError Request := do
  let (tag, body) ← Frame.split frame
  if tag = kind.tag then (bodyReader kind).read body
  else .error (.unexpectedTag kind.tag tag)

/-- The request with each code of a node under its name. -/
def normalise : Request → Request
  | registration node => registration node.normalise
  | request => request

end Request

end PortMapper
