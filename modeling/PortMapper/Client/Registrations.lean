import PortMapper.Client.Names

/-!
# Registrations of a client

A client and its clones share the names that they hold, so here they are one client. Registrations of a client may be
under way at the same time. A call first reserves its name, then makes its exchange with the daemon, and ends with a
handle or gives the name back. A handle keeps the connection until the daemon has hung up on it, and its name until it
is dropped or its node unregistered.

`Client.register` is a call that nothing interferes with (`finish_register`).
-/

namespace PortMapper

namespace Client

/-- The client when it holds one more name. -/
def reserve (client : Client) (name : Text) : Client :=
  { client with held := name :: client.held }

theorem release_reserve {client : Client} {name : Text} (free : client.isRegistered name = false) :
    (client.reserve name).release name = client := by
  have absent : client.held.filter (· ≠ name) = client.held := by
    refine List.filter_eq_self.mpr fun other member => decide_eq_true ?_
    rintro rfl
    rw [isRegistered, List.contains_iff_mem.mpr member] at free
    cases free
  rw [release, reserve, List.filter_cons_of_neg (by simp), absent]

end Client

/-- A live registration, in the hands of its owner. -/
structure RegistrationHandle where
  name : Text
  creation : UInt16
  /-- Whether the connection is still kept. -/
  connected : Bool := true
  deriving DecidableEq, Repr

/-- A client with the registrations under way and the live handles. -/
structure Registrations where
  client : Client
  /-- The calls that have reserved their names, the last one first. -/
  calls : List NodeDescription := []
  handles : List RegistrationHandle := []

/-- What happens to the registrations of a client. A call or a handle is called by its place. -/
inductive RegistrationEvent
  | register (node : NodeDescription)
  /-- A call ends, its frame having fared as the network says. -/
  | finish (place : Nat) (network : Network)
  /-- The caller gives a call up. -/
  | abandon (place : Nat)
  /-- The owner of a handle sees that the daemon has hung up. -/
  | hangUp (place : Nat)
  /-- The node of a handle is unregistered; shutting the connection down may fail. -/
  | unregister (place : Nat) (shutdown : Except String Unit)
  | drop (place : Nat)

namespace Registrations

/-- A call starts. If the client holds the name already, the call ends at once. -/
def register (state : Registrations) (node : NodeDescription) : Option (Call UInt16) × Registrations :=
  if state.client.isRegistered node.name then (some ⟨none, .error (.nameConflict node.name)⟩, state)
  else (none, { state with client := state.client.reserve node.name, calls := node :: state.calls })

/-- The call at a place ends. -/
def finish (state : Registrations) (place : Nat) (node : NodeDescription) (network : Network) :
    Call UInt16 × Registrations :=
  let call := state.client.requestRegistration node network
  match call.result with
  | .ok creation =>
    (call, { state with calls := state.calls.eraseIdx place, handles := ⟨node.name, creation, true⟩ :: state.handles })
  | .error _ =>
    (call, { state with client := state.client.release node.name, calls := state.calls.eraseIdx place })

/-- The caller gives up the call at a place, which ends there. -/
def abandon (state : Registrations) (place : Nat) : Registrations :=
  { state with calls := state.calls.eraseIdx place }

/-- The handle at a place gives its connection up, since the daemon has. -/
def hangUp (state : Registrations) (place : Nat) (handle : RegistrationHandle) : Registrations :=
  { state with handles := state.handles.set place { handle with connected := false } }

/-- The handle at a place is dropped. -/
def drop (state : Registrations) (place : Nat) (handle : RegistrationHandle) : Registrations :=
  { state with client := state.client.release handle.name, handles := state.handles.eraseIdx place }

/-- The node of the handle at a place is unregistered: a connection that is still kept is shut down, and the handle is
dropped however that went. -/
def unregister (state : Registrations) (place : Nat) (handle : RegistrationHandle) (shutdown : Except String Unit) :
    Except ClientError Unit × Registrations :=
  (if handle.connected then shutdown.mapError .broken else .ok (), state.drop place handle)

/-- The registrations after an event, if it can happen. -/
def step (state : Registrations) : RegistrationEvent → Option Registrations
  | .register node => some (state.register node).2
  | .finish place network => do return (state.finish place (← state.calls[place]?) network).2
  | .abandon place => do
    let _ ← state.calls[place]?
    return state.abandon place
  | .hangUp place => do return state.hangUp place (← state.handles[place]?)
  | .unregister place shutdown => do return (state.unregister place (← state.handles[place]?) shutdown).2
  | .drop place => do return state.drop place (← state.handles[place]?)

def run (state : Registrations) (events : List RegistrationEvent) : Option Registrations :=
  events.foldlM step state

/-- Whether a client can come to have these registrations. -/
def Reachable (state : Registrations) : Prop :=
  ∃ settings events, run ⟨⟨settings, []⟩, [], []⟩ events = some state

/-- The names that count as registered, those of the calls and those of the handles. -/
def names (state : Registrations) : NameUse :=
  ⟨state.client.held, state.calls.map (·.name), state.handles.map (·.name)⟩

/-- A call that starts and ends with nothing in between is a registration of the client. -/
theorem finish_register {state : Registrations} {node : NodeDescription} (network : Network)
    (free : state.client.isRegistered node.name = false) :
    (((state.register node).2.finish 0 node network).1, ((state.register node).2.finish 0 node network).2.client) =
      state.client.register node network := by
  have asks : (state.client.reserve node.name).requestRegistration node network =
      state.client.requestRegistration node network := rfl
  simp only [register, Client.register, free, Bool.false_eq_true, if_false, finish, asks]
  cases (state.client.requestRegistration node network).result with
  | ok creation => rfl
  | error error => rw [Client.release_reserve free]

end Registrations

end PortMapper
