import Mathlib.Data.List.Nodup
import PortMapper.Proofs.Registry.Conservation
import PortMapper.Proofs.Registry.Holding
import PortMapper.Proofs.Registry.Listing

/-!
# What a check does to those who came meanwhile

A lookup and a listing take the nodes to be checked at one time and evict the dead ones at a later one, and
anything else may happen in between. An eviction goes by the claim of a node, its name and the number of its
session (`Registry.mem_foldl_evict`). So a node that came meanwhile is safe, whatever became of the one that was
checked (`check_spares_newcomers`).
-/

namespace PortMapper

namespace Registry

variable {registry : Registry} {node other : Node}

theorem mem_evict : other ∈ (registry.evict node).table.nodes ↔
    other ∈ registry.table.nodes ∧ other.claim ≠ node.claim := by
  rw [evict, (registry.removeSession_retires node.name node.session.id).mem_nodes]
  refine and_congr_right fun registered => not_congr ?_
  rw [Option.mem_toList, Option.filter_eq_some_iff, find?_eq_some_iff, decide_eq_true_iff, Node.claim,
    Node.claim, Prod.mk.injEq]
  constructor
  · rintro ⟨⟨_, named⟩, owned⟩
    exact ⟨named, owned⟩
  · rintro ⟨named, owned⟩
    exact ⟨⟨registered, named⟩, owned⟩

theorem mem_foldl_evict {dead : List Node} : other ∈ (dead.foldl evict registry).table.nodes ↔
    other ∈ registry.table.nodes ∧ other.claim ∉ dead.map Node.claim := by
  induction dead generalizing registry with
  | nil => simp
  | cons node dead ih =>
    rw [List.foldl_cons, ih, mem_evict, List.map_cons, List.mem_cons, not_or, and_assoc]

section Identified

variable {dead : List Node}
  (identified : ∀ node ∈ registry.table.nodes, ∀ other ∈ dead, node.session.id = other.session.id → node = other)

include identified

/-- If the numbers of sessions tell the nodes, evictions take out the dead ones and no other. -/
theorem mem_foldl_evict_of_identified :
    node ∈ (dead.foldl evict registry).table.nodes ↔ node ∈ registry.table.nodes ∧ node ∉ dead := by
  rw [mem_foldl_evict]
  refine and_congr_right fun registered => not_congr ?_
  rw [List.mem_map]
  constructor
  · rintro ⟨other, found, claim⟩
    rwa [identified node registered other found (Prod.ext_iff.mp claim).2.symm]
  · intro found
    exact ⟨node, found, rfl⟩

/-- A session that evictions close is that of a dead node which they take out. -/
theorem exists_dead_of_closed {session : Session} (wasOpen : registry.isOpen session = true)
    (closed : (dead.foldl evict registry).isOpen session = false) :
    ∃ node ∈ registry.table.nodes, node ∈ dead ∧ node.session.id = session.id := by
  obtain ⟨nodes, retires, _⟩ := registry.foldl_evict_retires dead
  have gone : session.id ∈ (dead.foldl evict registry).closed := by
    rw [Bool.eq_false_iff, ne_eq, isOpen_iff, Decidable.not_not] at closed
    exact closed
  rcases retires.mem_closed.mp gone with before | ⟨node, retired, own⟩
  · exact absurd before (isOpen_iff.mp wasOpen)
  · have registered := retires.subset retired
    refine ⟨node, registered, ?_, own⟩
    have left : node ∉ (dead.foldl evict registry).table.nodes := fun kept =>
      (retires.mem_nodes.mp kept).2 retired
    rw [mem_foldl_evict_of_identified identified, not_and, Decidable.not_not] at left
    exact left registered

/-- Evictions leave the session of a node that is not dead as it is. -/
theorem isOpen_foldl_evict (registered : node ∈ registry.table.nodes) (alive : node ∉ dead) :
    (dead.foldl evict registry).isOpen node.session = registry.isOpen node.session := by
  obtain ⟨nodes, retires, _⟩ := registry.foldl_evict_retires dead
  cases wasOpen : registry.isOpen node.session with
  | false =>
    rw [Bool.eq_false_iff]
    intro isOpen
    rw [(isOpen_of_retires retires isOpen).1] at wasOpen
    cases wasOpen
  | true =>
    rw [← Bool.not_eq_false]
    intro closed
    obtain ⟨other, _, found, own⟩ := exists_dead_of_closed identified wasOpen closed
    exact alive (identified node registered other found own.symm ▸ found)

end Identified

end Registry

/-- A lookup of a name, or a listing. -/
inductive LivenessCall
  | lookup (name : Text)
  | list

namespace LivenessCall

/-- The nodes that a call checks. -/
def snapshot (registry : Registry) : LivenessCall → List Node
  | .lookup name => (registry.find? name).toList
  | .list => registry.snapshot

/-- The beginning of a call. -/
def begins : LivenessCall → RegistryEvent
  | .lookup name => .beginLookup name
  | .list => .beginList

/-- The checks of a call that begins now. -/
def checks (registry : Registry) (call : LivenessCall) : List Check :=
  registry.checks (call.snapshot registry)

/-- Whether a call that began on the registry finds a node dead: its session was closed, or it does not
respond. -/
def FindsDead (registry : Registry) (responds : Node → Bool) (call : LivenessCall) (node : Node) : Prop :=
  node ∈ call.snapshot registry ∧ (registry.isOpen node.session = false ∨ responds node = false)

theorem snapshot_subset (registry : Registry) (call : LivenessCall) :
    call.snapshot registry ⊆ registry.table.nodes := by
  cases call with
  | lookup name =>
    intro node found
    exact (Registry.find?_eq_some_iff.mp (Option.mem_toList.mp found)).1
  | list => exact List.Subset.refl _

/-- How a call that began on one registry ends on another one. -/
theorem settle_checks (registry later : Registry) (responds : Node → Bool) (call : LivenessCall) :
    ∃ returned, ∃ dead : List Node,
      later.settle ((call.checks registry).map (·.verdict responds)) =
        (returned, dead.foldl Registry.evict later) ∧
      (∀ node, node ∈ returned ↔ node ∈ call.snapshot registry ∧
        registry.isOpen node.session = true ∧ responds node = true) ∧
      (∀ node, node ∈ dead ↔ call.FindsDead registry responds node) := by
  have live := registry.map_filter_checks (call.snapshot registry) responds id
  have dead := registry.map_filter_checks (call.snapshot registry) responds (!·)
  refine ⟨_, _, Prod.ext live (congrArg (List.foldl Registry.evict later) dead), ?_, ?_⟩
  · intro node
    rw [List.mem_filter, id, Bool.and_eq_true]
  · intro node
    rw [List.mem_filter, Bool.not_eq_true', Bool.and_eq_false_iff, FindsDead]

end LivenessCall

namespace Activity

variable {before later after : Activity}

/-! ## The two steps of a check -/

/-- A lookup or a listing begins, anything else happens, and the check ends, all on sessions that register at
most once. The call returns the nodes of its snapshot whose sessions were open when it began and which responded,
and takes the others out as far as they are still there. No other node is taken out, least of all one that has
taken over a name meanwhile, and no other session is closed. -/
theorem check_spares_newcomers (reachable : before.Reachable) (call : LivenessCall)
    {meanwhile : List RegistryEvent} {place : Nat} {responds : Node → Bool}
    (run : before.run (call.begins :: meanwhile) = some later)
    (outstanding : later.pending[place]? = some (call.checks before.registry))
    (once : (later.accepted.map (·.session.id)).Nodup) :
    ∃ returned after, later.step (.settle place responds) = some after ∧
      later.registry.settle ((call.checks before.registry).map (·.verdict responds)) =
        (returned, after.registry) ∧
      (∀ node, node ∈ returned ↔ node ∈ call.snapshot before.registry ∧
        before.registry.isOpen node.session = true ∧ responds node = true) ∧
      call.snapshot before.registry ⊆ before.registry.table.nodes ∧
      (∀ node, node ∈ after.registry.table.nodes ↔
        node ∈ later.registry.table.nodes ∧ ¬call.FindsDead before.registry responds node) ∧
      (∀ session, later.registry.isOpen session = true → after.registry.isOpen session = false →
        ∃ node ∈ later.registry.table.nodes,
          call.FindsDead before.registry responds node ∧ node.session.id = session.id) ∧
      (∀ newcomer ∈ later.registry.table.nodes, newcomer ∉ call.snapshot before.registry →
        newcomer ∈ after.registry.table.nodes ∧
        after.registry.isOpen newcomer.session = later.registry.isOpen newcomer.session) ∧
      (∀ node ∈ call.snapshot before.registry, before.registry.isOpen node.session = false →
        node ∉ returned ∧ node ∉ after.registry.table.nodes) := by
  obtain ⟨returned, dead, settled, memReturned, memDead⟩ :=
    call.settle_checks before.registry later.registry responds
  have checked := call.snapshot_subset before.registry
  have known : before.registry.table.nodes ⊆ later.accepted := fun node member =>
    accepted_of_run reachable run (nodes_subset_accepted reachable member)
  have registered := nodes_subset_accepted (reachable.run run)
  -- A session registers once, so its number tells the node.
  have identified : ∀ node ∈ later.registry.table.nodes, ∀ other ∈ dead,
      node.session.id = other.session.id → node = other := fun node member other found =>
    List.inj_on_of_nodup_map once (registered member) (known (checked ((memDead other).mp found).1))
  have left : ∀ node, node ∈ (dead.foldl Registry.evict later.registry).table.nodes ↔
      node ∈ later.registry.table.nodes ∧ ¬call.FindsDead before.registry responds node := by
    intro node
    rw [← memDead]
    exact Registry.mem_foldl_evict_of_identified identified
  refine ⟨returned, { later.become (dead.foldl Registry.evict later.registry) with
    pending := later.pending.eraseIdx place }, ?_, settled, memReturned, checked, left, ?_, ?_, ?_⟩
  · simp only [step, outstanding, settled, Option.pure_def, Option.bind_eq_bind, Option.bind_some]
  · intro session wasOpen closed
    obtain ⟨node, member, found, own⟩ := Registry.exists_dead_of_closed identified wasOpen closed
    exact ⟨node, member, (memDead node).mp found, own⟩
  · intro newcomer member absent
    have alive : ¬call.FindsDead before.registry responds newcomer := fun found => absent found.1
    refine ⟨(left newcomer).mpr ⟨member, alive⟩, ?_⟩
    exact Registry.isOpen_foldl_evict identified member (mt (memDead newcomer).mp alive)
  · intro node member closed
    refine ⟨fun alive => ?_, fun kept => ((left node).mp kept).2 ⟨member, .inl closed⟩⟩
    have isOpen := ((memReturned node).mp alive).2.1
    rw [closed] at isOpen
    cases isOpen

/-- A node that takes over the name of another one. -/
def successor : Node :=
  ⟨{ port := 2, name := ['a'] }, 2, ⟨2, ⟨.loopback, 40001, 0⟩⟩⟩

/-- The first node of the name is stopped, the successor registers, and a lookup finds it alive. -/
def succession : List RegistryEvent :=
  [.remove ['a'], .register successor.description 2, .beginLookup ['a'], .settle 0 fun _ => true]

/-- A listing that began before the succession and got no response at all leaves the successor alone. -/
theorem check_spares_newcomers_of_succession :
    ∃ before later after : Activity,
      (start 1).run [.openSession ⟨.loopback, 40000, 0⟩, .openSession successor.session.peer,
        .register { port := 1, name := ['a'] } 1] = some before ∧
      before.run (.beginList :: succession) = some later ∧
      later.step (.settle 0 fun _ => false) = some after ∧
      successor ∈ after.registry.table.nodes ∧ after.registry.isOpen successor.session = true := by
  let earlier := (start 1).run [.openSession ⟨.loopback, 40000, 0⟩, .openSession successor.session.peer,
    .register { port := 1, name := ['a'] } 1]
  let before := earlier.get (by decide)
  let later := (before.run (.beginList :: succession)).get (by decide)
  have run : before.run (.beginList :: succession) = some later := (Option.some_get _).symm
  have reachable : before.Reachable := ⟨1, _, (Option.some_get _).symm⟩
  obtain ⟨_, after, settles, _, _, _, _, _, spared, _⟩ :=
    check_spares_newcomers reachable .list run (show later.pending[0]? = _ by rfl) (by decide)
  obtain ⟨kept, same⟩ := spared successor (by decide) (by decide)
  have isOpen : later.registry.isOpen successor.session = true := by decide
  exact ⟨before, later, after, (Option.some_get _).symm, run, settles, kept, same.trans isOpen⟩

end Activity

end PortMapper
