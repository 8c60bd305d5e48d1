import PortMapper.Creation
import PortMapper.Registry.History

/-!
# The registry

The nodes that are registered, those that left, the creation number that comes next, and the sessions
that are closed. A name belongs to the session that registered it for as long as that session is open.
Whatever takes a node out of the registry closes its session and puts it into the history, once.

A node is alive while its session is open and it answers at its probe address. Finding that out takes
time, so a lookup and a listing have two steps: they take the nodes to be checked, and later, when the
verdicts are there, evict those that were found dead. In between the registry may have changed; a node
is evicted only if the entry under its name is still the one of its session.
-/

namespace PortMapper

structure Registry where
  table : NodeTable
  history : History
  counter : CreationCounter
  closed : ClosedSessions

/-- The answer of the registry to a registration. -/
inductive RegisterOutcome
  | registered (creation : UInt16)
  /-- The name is held by a node whose session is open. -/
  | conflict
  deriving DecidableEq, Repr

/-- A node that was checked, and whether it was found alive. -/
abbrev Verdict := Node × Bool

/-- A node that is being checked. -/
structure Check where
  node : Node
  /-- Whether it is asked to answer; otherwise it is dead. -/
  asked : Bool
  deriving DecidableEq, Repr

/-- The verdict of a check: a node is alive if it is asked and responds. -/
def Check.verdict (responds : Node → Bool) (check : Check) : Verdict :=
  (check.node, check.asked && responds check.node)

namespace Registry

/-- The registry without nodes whose first creation number is the seed. -/
def empty (seed : UInt16) : Registry :=
  ⟨.empty, .empty, .startingAt seed, []⟩

def size (registry : Registry) : Nat :=
  registry.table.size

def find? (registry : Registry) (name : Text) : Option Node :=
  registry.table.find? name

def isOpen (registry : Registry) (session : Session) : Bool :=
  !registry.closed.contains session.id

def close (registry : Registry) (session : Session) : Registry :=
  { registry with closed := registry.closed.close session.id }

/-! ## Registering -/

/-- Puts a node under its name, with the next creation number. `stale` is the node that was there. -/
def accept (registry : Registry) (stale : Option Node) (description : NodeDescription)
    (session : Session) : RegisterOutcome × Registry :=
  let (creation, counter) := registry.counter.draw
  (.registered creation,
    { registry with
      table := registry.table.insert ⟨description, creation, session⟩
      counter
      history :=
        match stale with
        | some node => registry.history.push node.retirement
        | none => registry.history })

/-- Registers a node, unless its name is held by a node whose session is open. -/
def register (registry : Registry) (description : NodeDescription) (session : Session) :
    RegisterOutcome × Registry :=
  match registry.find? description.name with
  | none => registry.accept none description session
  | some holder =>
    if registry.isOpen holder.session then (.conflict, registry)
    -- The holder is gone, only nobody has noticed yet.
    else registry.accept (some holder) description session

/-! ## Removing -/

/-- Takes a registered node out, closes its session and puts it into the history. -/
def retire (registry : Registry) (node : Node) : Registry :=
  { registry with
    table := registry.table.erase node.name
    history := registry.history.push node.retirement
    closed := registry.closed.close node.session.id }

def remove (registry : Registry) (name : Text) : Option Node × Registry :=
  match registry.find? name with
  | none => (none, registry)
  | some node => (some node, registry.retire node)

/-- Removes the node of a name if it belongs to the session of that number. -/
def removeSession (registry : Registry) (name : Text) (session : UInt64) :
    Option Node × Registry :=
  match registry.find? name with
  | none => (none, registry)
  | some node =>
    if node.session.id = session then (some node, registry.retire node) else (none, registry)

/-- Removes the node of every name in a list: how many there were, and the registry without them. -/
def removeAll (registry : Registry) : List Text → Nat × Registry
  | [] => (0, registry)
  | name :: names =>
    let (removed, registry) := registry.remove name
    let (count, registry) := registry.removeAll names
    (if removed.isSome then count + 1 else count, registry)

/-- Removes every node: how many there were, and the registry without them. -/
def clear (registry : Registry) : Nat × Registry :=
  registry.removeAll (registry.table.nodes.map (·.name))

/-! ## Checking liveness -/

/-- The nodes that a listing checks, in ascending order of their names. -/
def snapshot (registry : Registry) : List Node :=
  registry.table.nodes

/-- The checks of some nodes: a node is asked to answer only if its session is open now. -/
def checks (registry : Registry) (nodes : List Node) : List Check :=
  nodes.map fun node => ⟨node, registry.isOpen node.session⟩

/-- The verdicts on some nodes if nothing else happens meanwhile and a node responds when somebody answers
at its address. -/
def verdicts (registry : Registry) (answers : SocketAddress → Bool) (nodes : List Node) :
    List Verdict :=
  (registry.checks nodes).map (·.verdict fun node => answers node.probeAddress)

/-- Removes a node that was found dead, unless its name has changed hands. -/
def evict (registry : Registry) (node : Node) : Registry :=
  (registry.removeSession node.name node.session.id).2

/-- Ends a check: the nodes that were found alive, and the registry without those found dead. -/
def settle (registry : Registry) (verdicts : List Verdict) : List Node × Registry :=
  ((verdicts.filter (·.2)).map (·.1),
    ((verdicts.filter (!·.2)).map (·.1)).foldl evict registry)

/-- The node of a name if it is alive. A dead one is evicted. -/
def lookup (registry : Registry) (answers : SocketAddress → Bool) (name : Text) :
    Option Node × Registry :=
  let (live, registry') :=
    registry.settle (registry.verdicts answers (registry.find? name).toList)
  (live.head?, registry')

/-- The nodes that are alive, in ascending order of their names. Dead ones are evicted. -/
def list (registry : Registry) (answers : SocketAddress → Bool) : List Node × Registry :=
  registry.settle (registry.verdicts answers registry.snapshot)

/-- The registry in one line. -/
def summary (registry : Registry) : String :=
  s!"NodeRegistry \x7b nodes: {registry.size}, .. \x7d"

end Registry

end PortMapper
