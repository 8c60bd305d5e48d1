import PortMapper.Daemon.Connection
import PortMapper.Settings.Basic

/-!
# The daemon

A daemon accepts connections while it runs, serves so many at a time, and lets nobody in whom the allow list
does not admit. It stops when it is told to, or when it has obeyed a kill request. It accepts nothing more
then; connections may go on for a while, and those that are left are cut off.
-/

namespace PortMapper

structure Daemon where
  settings : ServerSettings
  dispatcher : Dispatcher
  registry : Registry
  /-- The connections that were let in and have not ended, the last one first. -/
  connections : List Connection := []
  /-- How many connections were let in. -/
  opened : Nat := 0
  running : Bool := true

/-- What happens to a daemon. A connection is called by the number of its session. -/
inductive DaemonEvent
  | connect (peer : SocketAddress)
  | connection (id : UInt64) (event : ConnectionEvent)
  /-- The daemon is told to stop. -/
  | shutdown
  /-- Connections had their time after the stop. -/
  | abort

namespace Daemon

/-- A daemon without connections that listens on a port, the first creation number being the seed. -/
def listening (settings : ServerSettings) (port seed : UInt16) : Daemon :=
  ⟨settings, ⟨settings.relaxed, port⟩, .empty seed, [], 0, true⟩

/-- How many connections may be served at a time: at least one. -/
def capacity (settings : ServerSettings) : Nat :=
  max 1 (min settings.maxConnections 2305843009213693951)

/-- Whether one more connection is accepted now. -/
def accepts (daemon : Daemon) : Bool :=
  daemon.running && daemon.connections.countP (·.isServed) < capacity daemon.settings

def nextSession (daemon : Daemon) (peer : SocketAddress) : Session :=
  ⟨UInt64.ofNat (daemon.opened + 1), peer⟩

/-- Accepts a connection: one that is not let in is closed and leaves nothing behind. The session is that
of the connection if it is let in. -/
def connect (daemon : Daemon) (peer : SocketAddress) : Option Session × Daemon :=
  if daemon.accepts && daemon.settings.allows peer.ip then
    let session := daemon.nextSession peer
    (some session,
      { daemon with
        connections := .accept session :: daemon.connections
        opened := daemon.opened + 1 })
  else (none, daemon)

/-- The connection of a session that has not ended. -/
def connection? (daemon : Daemon) (id : UInt64) : Option Connection :=
  daemon.connections.find? (·.session.id = id)

def shutdown (daemon : Daemon) : Daemon :=
  { daemon with running := false }

def onConnection (daemon : Daemon) (id : UInt64) (event : ConnectionEvent) : Daemon :=
  match daemon.connection? id with
  | none => daemon
  | some connection =>
    let (after, registry) := connection.step daemon.dispatcher daemon.registry event
    { daemon with
      registry
      connections :=
        (daemon.connections.map fun other => if other.session.id = id then after else other).filter
          (!·.isFinished)
      running := daemon.running && !connection.stopsDaemon event }

/-- Cuts off every connection of a daemon that has stopped. -/
def abort (daemon : Daemon) : Daemon :=
  if daemon.running then daemon
  else { daemon with connections := [] }

def step (daemon : Daemon) : DaemonEvent → Daemon
  | .connect peer => (daemon.connect peer).2
  | .connection id event => daemon.onConnection id event
  | .shutdown => daemon.shutdown
  | .abort => daemon.abort

def run (daemon : Daemon) (events : List DaemonEvent) : Daemon :=
  events.foldl step daemon

end Daemon

end PortMapper
