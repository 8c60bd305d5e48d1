import PortMapper.Registry.Basic

/-!
# Activity on a registry

What can happen to a registry, and in which order. Sessions are opened and closed, each with a number of its
own; nodes are registered and removed; and checks of nodes start at one time and are settled at a later one,
with anything else in between. Whoever settles a check says which nodes responded.

The activity also remembers every registration that was accepted and every one that ended, in order. A
registration ended when an event took its node out of the table, or put another one in its place.
-/

namespace PortMapper

/-- A registry in use. -/
structure Activity where
  registry : Registry
  sessions : OpenedSessions := []
  /-- The checks that are outstanding. -/
  pending : List (List Check) := []
  /-- The registrations that were accepted, the first one first. -/
  accepted : List Node := []
  /-- The registrations that ended, the first one first. -/
  ended : List Node := []

/-- What happens to a registry. A session is called by its number, an outstanding check by its place. -/
inductive RegistryEvent
  | openSession (peer : SocketAddress)
  | closeSession (id : UInt64)
  | register (node : NodeDescription) (id : UInt64)
  | remove (name : Text)
  | removeSession (name : Text) (id : UInt64)
  | clear
  /-- A lookup of a name begins. -/
  | beginLookup (name : Text)
  /-- A listing begins. -/
  | beginList
  /-- An outstanding check ends. -/
  | settle (place : Nat) (responds : Node → Bool)

namespace Activity

/-- The activity that begins with no nodes, the first creation number being the seed. -/
def start (seed : UInt16) : Activity :=
  ⟨.empty seed, [], [], [], []⟩

/-- The activity when its registry has become another one. -/
def become (activity : Activity) (registry : Registry) : Activity :=
  { activity with
    registry
    ended := activity.ended ++
      activity.registry.table.nodes.filter (!registry.table.nodes.contains ·) }

/-- Registers a node on a session. If it is accepted, whoever was under its name has ended. -/
def register (activity : Activity) (node : NodeDescription) (session : Session) : Activity :=
  match activity.registry.register node session with
  | (.registered creation, registry) =>
    -- Creation numbers come round again, so the node that goes may be equal to the one that comes.
    { activity with
      registry
      accepted := activity.accepted ++ [⟨node, creation, session⟩]
      ended := activity.ended ++ (activity.registry.find? node.name).toList }
  | (.conflict, registry) => activity.become registry

/-- The activity after an event, if it can happen. -/
def step (activity : Activity) : RegistryEvent → Option Activity
  | .openSession peer => do
    return { activity with sessions := ⟨← activity.sessions.nextId?, peer⟩ :: activity.sessions }
  | .closeSession id => do
    return activity.become (activity.registry.close (← activity.sessions.session? id))
  | .register node id => do return activity.register node (← activity.sessions.session? id)
  | .remove name => some (activity.become (activity.registry.remove name).2)
  | .removeSession name id => some (activity.become (activity.registry.removeSession name id).2)
  | .clear => some (activity.become activity.registry.clear.2)
  | .beginLookup name =>
    some { activity with
      pending := activity.registry.checks (activity.registry.find? name).toList ::
        activity.pending }
  | .beginList =>
    some { activity with
      pending := activity.registry.checks activity.registry.snapshot :: activity.pending }
  | .settle place responds => do
    let checks ← activity.pending[place]?
    let settled := (activity.registry.settle (checks.map (·.verdict responds))).2
    return { activity.become settled with pending := activity.pending.eraseIdx place }

def run (activity : Activity) (events : List RegistryEvent) : Option Activity :=
  events.foldlM step activity

/-- Whether a registry in use can come to be like this. -/
def Reachable (activity : Activity) : Prop :=
  ∃ seed events, (start seed).run events = some activity

end Activity

end PortMapper
