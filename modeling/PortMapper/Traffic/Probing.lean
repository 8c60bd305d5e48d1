import PortMapper.Traffic.Overlapping

/-!
# Probes that fare differently

Each node that a request waits for is probed on its own. So of two nodes at one address one may respond and the
other not, and the traffic here leaves it open which nodes respond.
-/

namespace PortMapper

/-- Answers a request that has waited, given which nodes responded. -/
def Dispatcher.resolve (dispatcher : Dispatcher) (responds : Node → Bool) (registry : Registry)
    (inquiry : Inquiry) : Answer × Registry :=
  dispatcher.answer registry inquiry.session (inquiry.checks.map (·.verdict responds)) inquiry.request

/-- If all nodes at an address fare alike, the request is answered as by `conclude`. -/
theorem Dispatcher.resolve_probeAddress (dispatcher : Dispatcher) (answers : SocketAddress → Bool)
    (registry : Registry) (inquiry : Inquiry) :
    dispatcher.resolve (fun node => answers node.probeAddress) registry inquiry =
      dispatcher.conclude answers registry inquiry := rfl

namespace OverlappingTraffic

/-- The traffic after the request at a place was answered. -/
def resolve (dispatcher : Dispatcher) (responds : Node → Bool) (traffic : OverlappingTraffic)
    (place : Nat) (inquiry : Inquiry) : OverlappingTraffic :=
  { traffic with
    registry := (dispatcher.resolve responds traffic.registry inquiry).2
    waiting := traffic.waiting.eraseIdx place }

/-- Whether the traffic of a dispatcher can come to be like this. -/
inductive Reachable (dispatcher : Dispatcher) : OverlappingTraffic → Prop
  | start (seed : UInt16) : Reachable dispatcher (start seed)
  | step {before after : OverlappingTraffic} {event : OverlappingEvent} (earlier : Reachable dispatcher before)
      (happens : before.step dispatcher event = some after) : Reachable dispatcher after
  | resolve {before : OverlappingTraffic} {place : Nat} {inquiry : Inquiry} (responds : Node → Bool)
      (earlier : Reachable dispatcher before) (waits : before.waiting[place]? = some inquiry) :
      Reachable dispatcher (before.resolve dispatcher responds place inquiry)

end OverlappingTraffic

end PortMapper
