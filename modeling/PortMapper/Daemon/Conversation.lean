import PortMapper.Daemon.Connection

/-!
# A connection and what its peer sends

The peer sends a stream. The first frame in it is the request. When a registration is held after that, the
connection goes on reading and drops what it reads, until the peer hangs up or the connection breaks.
Meanwhile other connections change the registry.
-/

namespace PortMapper

namespace Stream

/-- One read: at most one chunk, and no more than there is room for. -/
def read (room : Nat) : Stream → Except String Bytes × Stream
  | [] => (.ok [], [])
  | .pending :: rest => read room rest
  | .failure cause :: rest => (.error cause, rest)
  | .data bytes :: rest =>
    if bytes.length ≤ room then (.ok bytes, rest)
    else (.ok (bytes.take room), .data (bytes.drop room) :: rest)

/-- A read loses nothing. -/
theorem unread_of_read {room : Nat} {stream left : Stream} {bytes : Bytes}
    (took : stream.read room = (.ok bytes, left)) : stream.unread = bytes ++ left.unread := by
  fun_induction read room stream with
  | case1 => cases took; rfl
  | case2 rest ih => exact ih took
  | case3 cause rest => cases took
  | case4 bytes rest fits => cases took; rfl
  | case5 bytes rest longer =>
    cases took
    show bytes ++ unread rest = bytes.take room ++ (bytes.drop room ++ unread rest)
    rw [← List.append_assoc, List.take_append_drop]

/-- How many bytes there is room for while a registration is held. -/
def scratchLength : Nat := 256

/-- Reads one after another, until one brings no bytes or fails. -/
def reads (stream : Stream) : List (Except String Bytes) :=
  match took : stream.read scratchLength with
  | (.ok (byte :: bytes), left) =>
    have fewer : left.unread.length < stream.unread.length := by
      rw [unread_of_read took, List.length_append, List.length_cons]
      omega
    .ok (byte :: bytes) :: reads left
  | (last, _) => [last]
termination_by stream.unread.length

end Stream

namespace Connection

/-- What happens to a connection that holds a registration when it has read something. Bytes do not count, and
otherwise the registration is over. -/
def heard : Except String Bytes → List ConnectionEvent
  | .ok (_ :: _) => []
  | .ok [] | .error _ => [.closing, .released]

/-- The events of a connection up to its reply, if none of them takes too long. -/
def requestEvents (responds : Node → Bool) (stream : Stream) : List ConnectionEvent :=
  [.read (Frame.readFrom stream).1, .checked responds, .written]

/-- The same until the peer has hung up. -/
def conversation (responds : Node → Bool) (stream : Stream) : List ConnectionEvent :=
  requestEvents responds stream ++ (Frame.readFrom stream).2.reads.flatMap heard

theorem exchangeEvents_eq (answers : SocketAddress → Bool) (stream : Stream) :
    exchangeEvents answers stream = requestEvents (fun node => answers node.probeAddress) stream := rfl

/-- What other connections do to the registry before an event of this one. -/
abbrev Others := ConnectionEvent → Registry → Registry

/-- A connection and the registry after some events, among other connections. -/
def runAmong (others : Others) (dispatcher : Dispatcher) (registry : Registry) (connection : Connection)
    (events : List ConnectionEvent) : Connection × Registry :=
  events.foldl
    (fun (connection, registry) event => connection.step dispatcher (others event registry) event)
    (connection, registry)

/-- What the other connections alone make of the registry. -/
def Others.leave (others : Others) (registry : Registry) (events : List ConnectionEvent) : Registry :=
  events.foldl (fun registry event => others event registry) registry

end Connection

end PortMapper
