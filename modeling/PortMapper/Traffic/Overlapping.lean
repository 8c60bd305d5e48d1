import PortMapper.Traffic

/-!
# Overlapping traffic

Requests that reach a dispatcher while others are still being answered. When a request arrives, the nodes to be
checked for it are taken, and it waits. It is answered when the verdicts are there, and in between anything may
happen to the registry.
-/

namespace PortMapper

/-- A request that waits for its answer. -/
structure Inquiry where
  session : Session
  request : Request
  checks : List Check
  deriving DecidableEq, Repr

namespace Dispatcher

/-- A request that has just arrived. -/
def inquire (registry : Registry) (session : Session) (request : Request) : Inquiry :=
  ⟨session, request, registry.checks (toCheck registry request)⟩

/-- Answers a request that has waited, given who answers at which address. -/
def conclude (dispatcher : Dispatcher) (answers : SocketAddress → Bool) (registry : Registry)
    (inquiry : Inquiry) : Answer × Registry :=
  dispatcher.answer registry inquiry.session
    (inquiry.checks.map (·.verdict fun node => answers node.probeAddress)) inquiry.request

/-- A request that does not wait is answered as by `dispatch`. -/
theorem conclude_inquire (dispatcher : Dispatcher) (answers : SocketAddress → Bool) (registry : Registry)
    (session : Session) (request : Request) :
    dispatcher.conclude answers registry (inquire registry session request) =
      dispatcher.dispatch answers registry session request := rfl

end Dispatcher

/-- The registry of a dispatcher, the sessions that were opened, and the requests that wait. -/
structure OverlappingTraffic where
  registry : Registry
  sessions : OpenedSessions := []
  waiting : List Inquiry := []

/-- What happens to a dispatcher. A session is called by its number, a request that waits by its place. -/
inductive OverlappingEvent
  | openSession (peer : SocketAddress)
  /-- A frame arrives on a session. -/
  | frame (id : UInt64) (frame : Bytes)
  /-- A request is answered. -/
  | answer (place : Nat) (answers : SocketAddress → Bool)
  | closeSession (id : UInt64)
  /-- The owner of a session gives up a name. -/
  | release (id : UInt64) (name : Text)

namespace OverlappingTraffic

/-- The traffic that begins with no nodes, the first creation number being the seed. -/
def start (seed : UInt16) : OverlappingTraffic :=
  ⟨.empty seed, [], []⟩

/-- The traffic after a frame on a session. One that is no request changes nothing. -/
def receive (traffic : OverlappingTraffic) (session : Session) (frame : Bytes) : OverlappingTraffic :=
  match Request.decode frame with
  | .ok request =>
    { traffic with waiting := Dispatcher.inquire traffic.registry session request :: traffic.waiting }
  | .error _ => traffic

/-- The traffic after an event, if it can happen. -/
def step (dispatcher : Dispatcher) (traffic : OverlappingTraffic) :
    OverlappingEvent → Option OverlappingTraffic
  | .openSession peer => do
    return { traffic with sessions := ⟨← traffic.sessions.nextId?, peer⟩ :: traffic.sessions }
  | .frame id frame => do return traffic.receive (← traffic.sessions.session? id) frame
  | .answer place answers => do
    let inquiry ← traffic.waiting[place]?
    return { traffic with
      registry := (dispatcher.conclude answers traffic.registry inquiry).2
      waiting := traffic.waiting.eraseIdx place }
  | .closeSession id => do
    return { traffic with registry := traffic.registry.close (← traffic.sessions.session? id) }
  | .release id name =>
    some { traffic with registry := (traffic.registry.removeSession name id).2 }

def run (dispatcher : Dispatcher) (traffic : OverlappingTraffic) (events : List OverlappingEvent) :
    Option OverlappingTraffic :=
  events.foldlM (step dispatcher) traffic

end OverlappingTraffic

end PortMapper
