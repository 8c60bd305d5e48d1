import PortMapper.Daemon.Basic

/-!
# The ledger of a daemon

Which registrations began and which ended while a daemon ran, as its table shows: a registration begins when its
node comes into the table and ends when the node leaves it.
-/

namespace PortMapper

/-- A daemon and the registrations that it has seen. -/
structure DaemonLedger where
  daemon : Daemon
  /-- The nodes that came into the table, the first one first. -/
  entered : List Node := []
  /-- The nodes that left the table, the first one first. -/
  left : List Node := []

namespace DaemonLedger

def start (settings : ServerSettings) (port seed : UInt16) : DaemonLedger :=
  ⟨.listening settings port seed, [], []⟩

def nodes (ledger : DaemonLedger) : List Node :=
  ledger.daemon.registry.table.nodes

/-- The ledger when the daemon has become another one. -/
def become (ledger : DaemonLedger) (daemon : Daemon) : DaemonLedger where
  daemon
  entered := ledger.entered ++ daemon.registry.table.nodes.filter (!ledger.nodes.contains ·)
  left := ledger.left ++ ledger.nodes.filter (!daemon.registry.table.nodes.contains ·)

def step (ledger : DaemonLedger) (event : DaemonEvent) : DaemonLedger :=
  ledger.become (ledger.daemon.step event)

def run (ledger : DaemonLedger) (events : List DaemonEvent) : DaemonLedger :=
  events.foldl step ledger

/-- Whether a ledger can come to be like this. No two sessions have the same number, so numbers must be left. -/
def Reachable (ledger : DaemonLedger) : Prop :=
  ∃ settings port seed events,
    (start settings port seed).run events = ledger ∧ ledger.daemon.opened < UInt64.size

end DaemonLedger

end PortMapper
