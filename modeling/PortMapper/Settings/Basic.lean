import PortMapper.Address.Basic

/-!
# Settings

What can be set for the daemon and for its clients, and the values in force when nothing is set. Times are in
milliseconds.

A daemon answers everyone if its allow list is empty or holds an unspecified address, and otherwise the
hosts of the list. A host is the same however its address is written (`allows_canonical`).
-/

namespace PortMapper

/-- The settings of a daemon. -/
structure ServerSettings where
  port : UInt16 := 4369
  /-- The address that the daemon listens on. -/
  listenAddress : IpAddress := .unspecified
  /-- The hosts that are answered. -/
  allowed : List IpAddress := [.loopback, .loopback6]
  /-- Whether kill and stop are obeyed. -/
  relaxed : Bool := false
  /-- How many connections are served at a time. -/
  maxConnections : Nat := 512
  /-- How long a request may take to arrive. -/
  readTimeout : Nat := 5000
  /-- How long a reply may take to leave. -/
  writeTimeout : Nat := 5000
  /-- How long a node may take to show that it is alive. -/
  livenessTimeout : Nat := 2000
  /-- How long connections may go on when the daemon stops. -/
  shutdownGrace : Nat := 2000
  deriving DecidableEq, Repr

structure ClientSettings where
  /-- The host of the daemon. -/
  host : IpAddress := .loopback
  /-- The port of the daemon. -/
  port : UInt16 := 4369
  connectTimeout : Nat := 2000
  /-- How long a request and its reply may take together. -/
  requestTimeout : Nat := 5000
  /-- How many calls may be under way at a time. -/
  maxInFlight : Nat := 8
  deriving DecidableEq, Repr

structure LogSettings where
  /-- Whether details are logged. -/
  debug : Bool := false
  deriving DecidableEq, Repr

structure Settings where
  server : ServerSettings := {}
  client : ClientSettings := {}
  log : LogSettings := {}
  deriving DecidableEq, Repr

namespace ServerSettings

/-- Whether a host is answered. -/
def allows (settings : ServerSettings) (peer : IpAddress) : Bool :=
  settings.allowed.isEmpty ||
    settings.allowed.any fun entry =>
      entry.isUnspecified || entry.canonical = peer.canonical

/-- Whether a host is answered does not depend on how its address is written. -/
theorem allows_canonical (settings : ServerSettings) {a b : IpAddress}
    (h : a.canonical = b.canonical) : settings.allows a = settings.allows b := by
  simp only [allows, h]

example : ({} : ServerSettings).allows (.v6 (IpAddress.mapped 0x7f000001)) = true := by decide

example : ({} : ServerSettings).allows (.v4 0x0a000007) = false := by decide

end ServerSettings

namespace ClientSettings

/-- Where the daemon is expected. -/
def daemon (settings : ClientSettings) : SocketAddress :=
  { ip := settings.host, port := settings.port }

end ClientSettings

end PortMapper
