import PortMapper.Registry.Basic
import PortMapper.Reply.Dump
import PortMapper.Reply.Names
import PortMapper.Reply.NodeInfo
import PortMapper.Reply.Registration
import PortMapper.Reply.Word
import PortMapper.Request

/-!
# The dispatcher

What each request does to the registry and how it is answered. A request that needs to know which nodes
are alive is answered in two steps: `toCheck` gives the nodes to be checked, and `answer` takes the
verdicts on them. The registry is up to date when the answer is given.
-/

namespace PortMapper

/-- What a connection does when its answer has been sent. -/
inductive Action
  | close
  /-- The connection now keeps the registration of this name. -/
  | holdRegistration (name : Text)
  /-- Close, and stop the port mapper. -/
  | shutdown
  deriving DecidableEq, Repr

/-- How the port mapper answers requests. -/
structure Dispatcher where
  /-- Whether kill and stop are allowed. -/
  relaxed : Bool
  /-- The port that the port mapper itself listens on. -/
  port : UInt16
  deriving DecidableEq, Repr

/-- A reply on the wire, and what the connection does then. -/
abbrev Answer := Except WireError (Bytes × Action)

def DumpEntry.ofNode (node : Node) : DumpEntry :=
  ⟨.active, node.name, node.port, node.session.id⟩

/-- The entry of a dump for a registration that ended. -/
def DumpEntry.ofRetirement (retirement : Retirement) : DumpEntry :=
  ⟨.oldUnused, retirement.name, retirement.port, retirement.session⟩

namespace Dispatcher

/-- The nodes whose liveness the answer to a request depends on. -/
def toCheck (registry : Registry) : Request → List Node
  | .nodeInfo name => (registry.find? name).toList
  | .names => registry.snapshot
  | .dump => registry.snapshot
  | _ => []

def nameListing (dispatcher : Dispatcher) (nodes : List Node) : NameListing :=
  ⟨dispatcher.port.toUInt32, nodes.map fun node => ⟨node.name, node.port⟩⟩

def dump (dispatcher : Dispatcher) (nodes : List Node) (history : History) : Dump :=
  ⟨dispatcher.port.toUInt32,
    nodes.map DumpEntry.ofNode ++ history.entries.map DumpEntry.ofRetirement⟩

/-- Answers a request of a session, given the verdicts on the nodes to be checked. -/
def answer (dispatcher : Dispatcher) (registry : Registry) (session : Session)
    (verdicts : List Verdict) : Request → Answer × Registry
  | .registration node =>
    match registry.register node session with
    | (.registered creation, registry) =>
      (.ok ((RegistrationReply.accept creation).encode, .holdRegistration node.name), registry)
    | (.conflict, registry) => (.ok (RegistrationReply.refuse.encode, .close), registry)
  | .nodeInfo _ =>
    let (live, registry) := registry.settle verdicts
    let info := NodeInfo.ofDescription? (live.head?.map (·.description))
    (info.encode.map (·, .close), registry)
  | .names =>
    let (live, registry) := registry.settle verdicts
    ((dispatcher.nameListing live).encode.map (·, .close), registry)
  | .dump =>
    let (live, registry) := registry.settle verdicts
    ((dispatcher.dump live registry.history).encode.map (·, .close), registry)
  | .kill =>
    if dispatcher.relaxed then (.ok (KillReply.ok.encode, .shutdown), registry.clear.2)
    else (.ok (KillReply.notOk.encode, .close), registry)
  | .stop name =>
    if dispatcher.relaxed then
      match registry.remove name with
      | (some _, registry) => (.ok (StopReply.stopped.encode, .close), registry)
      | (none, registry) => (.ok (StopReply.notThere.encode, .close), registry)
    else (.ok (StopReply.notThere.encode, .close), registry)

/-- Answers a request of a session if nothing else happens meanwhile. -/
def dispatch (dispatcher : Dispatcher) (answers : SocketAddress → Bool) (registry : Registry)
    (session : Session) (request : Request) : Answer × Registry :=
  dispatcher.answer registry session (registry.verdicts answers (toCheck registry request)) request

end Dispatcher

end PortMapper
