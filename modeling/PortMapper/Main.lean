import PortMapper.Control.Basic
import PortMapper.Daemon.Basic
import PortMapper.Daemon.Start
import Std.Async.Signal
import Std.Async.TCP
import Std.Async.Timer

/-!
# The programs

The daemon, and the control program that talks to it. Called as `epmd-ctl` the executable is the control
program, otherwise the daemon. What is decided here is only when something happens: sockets are read and
written, clocks are watched, and every event is handed to the daemon, which says what it does.
-/

namespace PortMapper.Program

open Std.Async

/-! ## Surroundings -/

/-- The variables of the process that count. -/
def environment : IO Environment := do
  let values ← Environment.variableNames.filterMapM fun name => do
    return (← IO.getEnv name).map fun value => (name, value.toList)
  return (values.lookup ·)

/-- What is at a path. A path that cannot be followed to its end leads to nothing. -/
def fileAt (path : Text) : IO Settings.File := do
  let name := String.ofList path
  match ← (IO.FS.realPath name).toBaseIO with
  | .error _ => return .absent
  | .ok _ =>
    match ← (IO.FS.readBinFile name).toBaseIO with
    | .ok content => return .content content.data.toList
    | .error error => return .unreadable (toString error)

/-- Shows an outcome; the result is the exit code. -/
def conclude (outcome : Outcome) : IO UInt32 := do
  IO.print (String.ofList outcome.output)
  IO.eprint (String.ofList outcome.errors)
  return outcome.exit.toUInt32

/-! ## Sockets -/

def toSocket (address : SocketAddress) : Std.Net.SocketAddress :=
  match address.ip with
  | .v4 bits =>
    let octets := IpAddress.octets bits
    .v4 ⟨⟨Vector.ofFn fun i => UInt8.ofNat (octets.getD i 0)⟩, address.port⟩
  | .v6 bits =>
    let groups := IpAddress.groups bits
    .v6 ⟨⟨Vector.ofFn fun i => UInt16.ofNat (groups.getD i 0)⟩, address.port⟩

def ofSocket : Std.Net.SocketAddress → SocketAddress
  | .v4 address =>
    let bits := address.addr.octets.toList.foldl (fun value octet => value * 256 + octet.toNat) 0
    { ip := .v4 (BitVec.ofNat 32 bits), port := address.port }
  | .v6 address =>
    { ip := .v6 (IpAddress.ofGroups (address.addr.segments.toList.map (·.toNat))),
      port := address.port }

/-- What an action gives, or the wording of its failure. -/
def attempt {α : Type} (action : Async α) : Async (Except String α) := do
  try return .ok (← action) catch error => return .error (toString error)

/-- What an action gives, unless it takes longer than so many milliseconds. -/
def within {α : Type} (limit : Nat) (action : Async α) : Async (Option α) :=
  Async.race (some <$> action) (do
    sleep (Std.Time.Millisecond.Offset.ofNat limit)
    return none)

def connect (address : SocketAddress) : Async TCP.Socket.Client := do
  let socket ← TCP.Socket.Client.mk
  socket.connect (toSocket address)
  return socket

def send (socket : TCP.Socket.Client) (bytes : Bytes) : Async Unit :=
  socket.send ⟨bytes.toArray⟩

/-! ## The control program -/

/-- Collects what comes until the stream ends. -/
partial def collect (socket : TCP.Socket.Client) (came : IO.Ref Bytes) : Async Unit := do
  if let some more ← socket.recv? 65536 then
    came.modify (· ++ more.data.toList)
    collect socket came

/-- Sends a frame to a daemon and takes its reply. -/
def exchange (settings : ClientSettings) (frame : Bytes) : Async Exchange := do
  match ← within settings.connectTimeout (attempt (connect settings.daemon)) with
  | none => return .connectTimeout
  | some (.error cause) => return .unreachable cause
  | some (.ok socket) =>
    let came ← IO.mkRef []
    let whole := attempt do
      send socket frame
      collect socket came
    match ← within settings.requestTimeout whole with
    | none => return .kept (← came.get)
    | some (.error cause) => return .broken cause
    | some (.ok _) => return .closed (← came.get)

/-- Runs the control program. A command that sends a frame is carried out with what came of it. -/
def control (arguments : List Text) : IO UInt32 := do
  let env ← environment
  let file ← fileAt (Settings.location env)
  match Control.plan arguments env fun _ => file with
  | .finish outcome => conclude outcome
  | .execute settings command =>
    let client : Client := ⟨settings, []⟩
    match (command.run client fun _ => .closed []).1 with
    | none => conclude (command.run client fun _ => .closed []).2
    | some frame =>
      let result ← (exchange settings frame).block
      conclude (command.run client fun _ => result).2

/-! ## The daemon -/

/-- How often something that may have changed is looked at, in milliseconds. -/
def tick : Nat := 100

/-- Whether somebody answers at an address. -/
def answers (limit : Nat) (address : SocketAddress) : Async Bool := do
  match ← within limit (attempt (connect address)) with
  | some (.ok _) => return true
  | _ => return false

/-- The frame at the start of a stream, of which a part has come. -/
partial def receive (socket : TCP.Socket.Client) (came : Stream) :
    Async (Except FrameError Bytes) := do
  match (Frame.readFrom came).1 with
  | .ok frame => return .ok frame
  | .error error =>
    match ← attempt (socket.recv? 65536) with
    | .error cause => return .error (.broken cause)
    | .ok none => return .error error
    | .ok (some more) => receive socket (came ++ [.data more.data.toList])

/-- Waits until the peer hangs up, the session is closed or the daemon stops. -/
partial def hold (state : IO.Ref Daemon) (socket : TCP.Socket.Client) (session : Session) :
    Async Unit := do
  let daemon ← state.get
  if daemon.running && daemon.registry.isOpen session then
    let timer ← Selector.sleep (Std.Time.Millisecond.Offset.ofNat tick)
    let goesOn ← attempt (Selectable.one #[
      .case (socket.recvSelector 256) fun more => return more.isSome,
      .case timer fun _ => return true])
    if let .ok true := goesOn then
      hold state socket session

/-- Waits for the next event of a connection. -/
def nextEvent (state : IO.Ref Daemon) (socket : TCP.Socket.Client) (connection : Connection) :
    Async ConnectionEvent := do
  let settings := (← state.get).settings
  match connection.phase with
  | .reading =>
    match ← within settings.readTimeout (receive socket []) with
    | some frame => return .read frame
    | none => return .readTimeout
  | .checking _ checks =>
    let asked := checks.filter (·.asked)
    let alive ← Async.concurrentlyAll (asked.toArray.map fun check =>
      answers settings.livenessTimeout check.node.probeAddress)
    let up := (asked.zip alive.toList).filterMap fun (check, alive) =>
      if alive then some check.node else none
    return .checked fun node => up.contains node
  | .replying reply _ =>
    match ← within settings.writeTimeout (attempt (send socket reply)) with
    | some (.ok _) => return .written
    | _ => return .writeFailed
  | .holding _ | .finished =>
    hold state socket connection.session
    return .released

/-- Serves a connection until it ends. -/
partial def serve (state : IO.Ref Daemon) (socket : TCP.Socket.Client) (id : UInt64) :
    Async Unit := do
  match (← state.get).connection? id with
  | none => let _ ← attempt socket.shutdown
  | some connection =>
    let event ← nextEvent state socket connection
    state.modify (·.onConnection id event)
    serve state socket id

/-- Accepts connections until the daemon stops. -/
partial def listen (state : IO.Ref Daemon) (server : TCP.Socket.Server) : Async Unit := do
  let daemon ← state.get
  if daemon.running then
    let timer ← Selector.sleep (Std.Time.Millisecond.Offset.ofNat tick)
    if daemon.accepts then
      let accepted ← attempt (Selectable.one #[
        .case server.acceptSelector fun socket => return some socket,
        .case timer fun _ => return none])
      if let .ok (some socket) := accepted then
        if let .ok peer ← attempt socket.getPeerName then
          match ← state.modifyGet (·.connect (ofSocket peer)) with
          | some session => background (serve state socket session.id)
          | none => let _ ← attempt socket.shutdown
    else
      sleep (Std.Time.Millisecond.Offset.ofNat tick)
    listen state server

/-- Waits until all connections have ended. -/
partial def drain (state : IO.Ref Daemon) : Async Unit := do
  if !(← state.get).connections.isEmpty then
    sleep (Std.Time.Millisecond.Offset.ofNat tick)
    drain state

/-- Stops the daemon when the process is interrupted. -/
def watchInterrupt (state : IO.Ref Daemon) : Async Unit := do
  let waiter ← Signal.Waiter.mk .sigint false
  let signal ← waiter.wait
  let _ ← await signal
  state.modify (·.shutdown)

/-- Runs a daemon that listens until it stops and its connections have ended. -/
def run (settings : ServerSettings) (server : TCP.Socket.Server) : Async Unit := do
  let port := (ofSocket (← server.getSockName)).port
  let state ← IO.mkRef (Daemon.listening settings port (UInt16.ofNat (← IO.monoNanosNow)))
  background (watchInterrupt state)
  listen state server
  let _ ← within settings.shutdownGrace (drain state)
  state.modify (·.abort)

def daemon (arguments : List Text) : IO UInt32 := do
  let env ← environment
  let file ← fileAt (Settings.location env)
  match Daemon.start arguments env fun _ => file with
  | .finish outcome => conclude outcome
  | .listen settings =>
    let address := Daemon.listenAddress settings
    let bound ← EIO.toBaseIO do
      let server ← TCP.Socket.Server.mk
      server.bind (toSocket address)
      server.listen 1024
      return server
    match bound with
    | .error error => conclude (Daemon.bindFailed address (toString error))
    | .ok server =>
      (run settings.server server).block
      return 0

end PortMapper.Program

/-- Runs the program that the executable is called as. -/
def main (arguments : List String) : IO UInt32 := do
  let arguments := arguments.map String.toList
  if (toString (← IO.appPath)).endsWith "epmd-ctl" then PortMapper.Program.control arguments
  else PortMapper.Program.daemon arguments
