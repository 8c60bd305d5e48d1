import PortMapper.Client.Error
import PortMapper.Client.Incoming
import PortMapper.Reply.Dump
import PortMapper.Reply.Names
import PortMapper.Reply.NodeInfo
import PortMapper.Reply.Registration
import PortMapper.Reply.Word
import PortMapper.Request
import PortMapper.Settings.Basic

/-!
# Clients

A client makes each call on a connection of its own: it sends one frame and reads the reply. A registration
takes no more of the reply than it needs and keeps the connection; every other call reads until the
daemon closes. The client also knows the names that it holds, and does not ask for one of them again.
-/

namespace PortMapper

/-- What came of sending a frame to the daemon. -/
inductive Exchange
  /-- No connection could be made. -/
  | unreachable (cause : String)
  /-- Making the connection took too long. -/
  | connectTimeout
  /-- The connection broke before a reply. -/
  | broken (cause : String)
  /-- The frame is under way, and this is what comes back. -/
  | replied (incoming : Incoming)
  deriving DecidableEq, Repr

namespace Exchange

def isConnected : Exchange → Bool
  | unreachable _ | connectTimeout => false
  | broken _ | replied _ => true

/-- These bytes come, and the daemon keeps the connection open. -/
def kept (reply : Bytes) : Exchange :=
  replied (.ofBytes reply false)

/-- These bytes come, and the daemon closes the connection. -/
def closed (reply : Bytes) : Exchange :=
  replied (.ofBytes reply true)

end Exchange

/-- How frames fare that are sent to the daemon. -/
abbrev Network := Bytes → Exchange

/-- A call: the frame that was sent, if one was, and the result. -/
structure Call (α : Type) where
  sent : Option Bytes
  result : Except ClientError α

/-- A client of one daemon. -/
structure Client where
  settings : ClientSettings
  /-- The names that this client holds. -/
  held : List Text := []

namespace Client

/-- The reply to a call, as it is read from what arrives. -/
def readReply (client : Client) (part : String) (limit : Option Nat) (incoming : Incoming) :
    Except ClientError Bytes :=
  match incoming.read limit with
  | some (.ok bytes) => .ok bytes
  | some (.error cause) => .error (.broken cause)
  | none => .error (.timedOut part client.settings.requestTimeout)

/-- The reply of an exchange to a call for which `limit` bytes are enough. Without a limit only the end of
the stream is. -/
def received (client : Client) (part : String) (limit : Option Nat) :
    Exchange → Except ClientError Bytes
  | .unreachable cause => .error (.unreachable client.settings.daemon cause)
  | .connectTimeout => .error (.timedOut "connect" client.settings.connectTimeout)
  | .broken cause => .error (.broken cause)
  | .replied incoming => client.readReply part limit incoming

/-- Sends a request and reads its reply. -/
def call {α : Type} (client : Client) (part : String) (limit : Option Nat) (request : Request)
    (decode : Bytes → Except WireError α) (network : Network) : Call α :=
  match request.encode with
  | .error error => ⟨none, .error (.malformed error)⟩
  | .ok frame =>
    let exchange := network frame
    ⟨if exchange.isConnected then some frame else none,
      do
        let reply ← client.received part limit exchange
        match decode reply with
        | .ok value => return value
        | .error error => throw (.malformed error)⟩

/-- A call that reads until the daemon closes. -/
def ask {α : Type} (client : Client) (request : Request) (decode : Bytes → Except WireError α)
    (network : Network) : Call α :=
  client.call "request" none request decode network

/-- Where the node of a name listens. -/
def lookup (client : Client) (name : Text) (network : Network) : Call NodeInfo :=
  client.ask (.nodeInfo name) NodeInfo.decode network

def names (client : Client) (network : Network) : Call NameListing :=
  client.ask .names NameListing.decode network

def dump (client : Client) (network : Network) : Call Dump :=
  client.ask .dump Dump.decode network

/-- Asks the daemon to drop the node of a name. -/
def stop (client : Client) (name : Text) (network : Network) : Call StopReply :=
  client.ask (.stop name) StopReply.decode network

/-- Asks the daemon to drop every node and to stop. -/
def kill (client : Client) (network : Network) : Call KillReply :=
  client.ask .kill KillReply.decode network

/-! ## Registering -/

def isRegistered (client : Client) (name : Text) : Bool :=
  client.held.contains name

/-- The client when it does not hold a name any longer. -/
def release (client : Client) (name : Text) : Client :=
  { client with held := client.held.filter (· ≠ name) }

/-- Asks the daemon for a registration; the result is its creation number. -/
def requestRegistration (client : Client) (node : NodeDescription) (network : Network) :
    Call UInt16 :=
  let reply := client.call "registration" (some RegistrationReply.wireLength)
    (.registration node) RegistrationReply.decode network
  { reply with
    result := do
      let reply ← reply.result
      if reply.accepted then return reply.creation else throw (.refused node.name) }

/-- Registers a node, unless the client holds its name already. The client holds the name if the
registration succeeds. -/
def register (client : Client) (node : NodeDescription) (network : Network) :
    Call UInt16 × Client :=
  if client.isRegistered node.name then (⟨none, .error (.nameConflict node.name)⟩, client)
  else
    let call := client.requestRegistration node network
    match call.result with
    | .ok _ => (call, { client with held := node.name :: client.held })
    | .error _ => (call, client)

end Client

end PortMapper
