import PortMapper.Dispatcher
import PortMapper.Frame.Stream

/-!
# Connections

The life of one accepted connection. It reads one frame, answers the request in it and closes, or, when it
has registered a node, holds the registration until the node hangs up, something else ends the registration
or the daemon stops. Whatever the node sends meanwhile does not count. A connection that ends takes the
registration that it holds with it, and no other.

Between two steps of a connection anything may happen to the registry.
-/

namespace PortMapper

/-- How far a connection is. -/
inductive Phase
  /-- The request has not arrived. -/
  | reading
  /-- Nodes are being checked for the answer to a request. -/
  | checking (request : Request) (checks : List Check)
  /-- A reply is being written. -/
  | replying (reply : Bytes) (action : Action)
  /-- The registration of a name is held. -/
  | holding (name : Text)
  | finished
  deriving DecidableEq, Repr

structure Connection where
  session : Session
  phase : Phase
  /-- The bytes that were written. -/
  written : Bytes := []
  deriving DecidableEq, Repr

/-- What happens to a connection. -/
inductive ConnectionEvent
  /-- Reading a frame ended. -/
  | read (frame : Except FrameError Bytes)
  /-- The request took too long. -/
  | readTimeout
  /-- The nodes being checked have responded or not. -/
  | checked (responds : Node → Bool)
  /-- The reply was written. -/
  | written
  /-- The reply could not be written, or that took too long. -/
  | writeFailed
  /-- The registration is over and its session is closed, but the entry is still there. -/
  | closing
  /-- The node hung up, its connection broke, its session was closed or the daemon stops. -/
  | released

namespace Connection

def accept (session : Session) : Connection :=
  ⟨session, .reading, []⟩

def finish (connection : Connection) : Connection :=
  { connection with phase := .finished }

def isFinished (connection : Connection) : Bool :=
  connection.phase = .finished

/-- Whether the connection counts as one that is being served. One that only holds a registration does
not. -/
def isServed (connection : Connection) : Bool :=
  match connection.phase with
  | .reading | .checking .. | .replying .. => true
  | .holding _ | .finished => false

/-- Answers a request, given the verdicts on the nodes that were checked for it. -/
def answer (dispatcher : Dispatcher) (registry : Registry) (connection : Connection)
    (verdicts : List Verdict) (request : Request) : Connection × Registry :=
  match dispatcher.answer registry connection.session verdicts request with
  | (.ok (reply, action), registry) =>
    ({ connection with phase := .replying reply action }, registry)
  | (.error _, registry) => (connection.finish, registry)

/-- Starts to answer the request of a frame. If no node has to be checked, it is answered at once. -/
def receive (dispatcher : Dispatcher) (registry : Registry) (connection : Connection)
    (frame : Bytes) : Connection × Registry :=
  match Request.decode frame with
  | .error _ => (connection.finish, registry)
  | .ok request =>
    match registry.checks (Dispatcher.toCheck registry request) with
    | [] => connection.answer dispatcher registry [] request
    | checks => ({ connection with phase := .checking request checks }, registry)

/-- Ends the registration of a name that the connection holds. -/
def release (registry : Registry) (connection : Connection) (name : Text) : Registry :=
  -- The name may have a new holder by now, whose registration stays.
  ((registry.close connection.session).removeSession name connection.session.id).2

/-- What happens when the reply has been written. -/
def replied (connection : Connection) (reply : Bytes) (action : Action) : Connection :=
  match action with
  | .holdRegistration name => { connection with phase := .holding name, written := reply }
  | .close | .shutdown => { connection with phase := .finished, written := reply }

/-- The registry when the reply could not be written: nobody would hold the registration. -/
def withdraw (registry : Registry) (connection : Connection) (action : Action) : Registry :=
  match action with
  | .holdRegistration name => (registry.removeSession name connection.session.id).2
  | .close | .shutdown => registry

/-- A connection and the registry after an event. An event that the phase does not wait for changes
nothing. -/
def step (dispatcher : Dispatcher) (registry : Registry) (connection : Connection)
    (event : ConnectionEvent) : Connection × Registry :=
  match connection.phase, event with
  | .reading, .read (.ok frame) => connection.receive dispatcher registry frame
  | .reading, .read (.error _) => (connection.finish, registry)
  | .reading, .readTimeout => (connection.finish, registry)
  | .checking request checks, .checked responds =>
    connection.answer dispatcher registry (checks.map (·.verdict responds)) request
  | .replying reply action, .written => (connection.replied reply action, registry)
  | .replying _ action, .writeFailed =>
    (connection.finish, connection.withdraw registry action)
  | .holding _, .closing => (connection, registry.close connection.session)
  | .holding name, .released => (connection.finish, connection.release registry name)
  | _, _ => (connection, registry)

/-- Whether an event makes the daemon stop: the reply to an obeyed kill request was written. -/
def stopsDaemon (connection : Connection) (event : ConnectionEvent) : Bool :=
  match connection.phase, event with
  | .replying _ .shutdown, .written => true
  | _, _ => false

/-! ## A connection on its own -/

def run (dispatcher : Dispatcher) (registry : Registry) (connection : Connection)
    (events : List ConnectionEvent) : Connection × Registry :=
  events.foldl
    (fun (connection, registry) event => connection.step dispatcher registry event)
    (connection, registry)

/-- The events of a connection up to its reply, if nothing fails and a node responds when somebody answers
at its address. -/
def exchangeEvents (answers : SocketAddress → Bool) (stream : Stream) : List ConnectionEvent :=
  [.read (Frame.readFrom stream).1, .checked fun node => answers node.probeAddress, .written]

/-- A connection on which the peer sends a stream, when its reply has been written, and the registry
then. -/
def exchange (dispatcher : Dispatcher) (answers : SocketAddress → Bool) (registry : Registry)
    (session : Session) (stream : Stream) : Connection × Registry :=
  (accept session).run dispatcher registry (exchangeEvents answers stream)

/-- The same when the peer has hung up as well. -/
def exchangeToEnd (dispatcher : Dispatcher) (answers : SocketAddress → Bool) (registry : Registry)
    (session : Session) (stream : Stream) : Connection × Registry :=
  (accept session).run dispatcher registry (exchangeEvents answers stream ++ [.released])

end Connection

end PortMapper
