import PortMapper.Dispatcher

/-!
# Traffic

What can reach a dispatcher, and in which order. Sessions are opened, each with a number of its own. Frames
arrive on them; a request that is read from a frame is answered before anything else happens, and a frame
that is no request changes nothing. Owners close their sessions and give up names.
-/

namespace PortMapper

/-- What a dispatcher makes of a frame: its answer, if a request is read from the frame, and the registry
then. -/
def Dispatcher.receive (dispatcher : Dispatcher) (answers : SocketAddress → Bool)
    (registry : Registry) (session : Session) (frame : Bytes) : Option Answer × Registry :=
  match Request.decode frame with
  | .ok request =>
    let (answer, registry) := dispatcher.dispatch answers registry session request
    (some answer, registry)
  | .error _ => (none, registry)

/-- The registry of a dispatcher, and the sessions that were opened. -/
structure Traffic where
  registry : Registry
  sessions : OpenedSessions := []

/-- What happens to a dispatcher. A session is called by its number. -/
inductive TrafficEvent
  | openSession (peer : SocketAddress)
  /-- A frame arrives on a session, while somebody answers at some addresses. -/
  | frame (id : UInt64) (frame : Bytes) (answers : SocketAddress → Bool)
  | closeSession (id : UInt64)
  /-- The owner of a session gives up a name. -/
  | release (id : UInt64) (name : Text)

namespace Traffic

/-- The traffic that begins with no nodes, the first creation number being the seed. -/
def start (seed : UInt16) : Traffic :=
  ⟨.empty seed, []⟩

/-- The traffic after an event, if it can happen. -/
def step (dispatcher : Dispatcher) (traffic : Traffic) : TrafficEvent → Option Traffic
  | .openSession peer => do
    return { traffic with sessions := ⟨← traffic.sessions.nextId?, peer⟩ :: traffic.sessions }
  | .frame id frame answers => do
    let session ← traffic.sessions.session? id
    return { traffic with
      registry := (dispatcher.receive answers traffic.registry session frame).2 }
  | .closeSession id => do
    return { traffic with registry := traffic.registry.close (← traffic.sessions.session? id) }
  | .release id name =>
    some { traffic with registry := (traffic.registry.removeSession name id).2 }

def run (dispatcher : Dispatcher) (traffic : Traffic) (events : List TrafficEvent) : Option Traffic :=
  events.foldlM (step dispatcher) traffic

/-- Whether the traffic of a dispatcher can come to be like this. -/
def Reachable (dispatcher : Dispatcher) (traffic : Traffic) : Prop :=
  ∃ seed events, (start seed).run dispatcher events = some traffic

end Traffic

end PortMapper
