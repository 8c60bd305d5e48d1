import PortMapper.Proofs.Registry.Retiring
import PortMapper.Proofs.Run
import PortMapper.Registry.Activity

/-!
# What an event does

An event of an activity does one of three things to the registry: it closes a session, it puts a node under
its name in the place of one whose session is closed, or it retires nodes (none, for the events that leave the
registry as it is). The registrations that the activity remembers change accordingly (`change_of_step`), so a
property of all activities has three cases (`Reachable.induct`).
-/

namespace PortMapper

namespace Registry

/-- A registration is refused and leaves the registry as it is, or nobody with an open session was under
the name. -/
theorem register_cases (registry : Registry) (node : NodeDescription) (session : Session) :
    ((∃ holder, registry.find? node.name = some holder ∧ registry.isOpen holder.session = true) ∧
        registry.register node session = (.conflict, registry)) ∨
      ((∀ holder, registry.find? node.name = some holder → registry.isOpen holder.session = false) ∧
        registry.register node session =
          registry.accept (registry.find? node.name) node session) := by
  cases found : registry.find? node.name with
  | none => simp [register, found]
  | some holder =>
    cases isOpen : registry.isOpen holder.session with
    | true => exact .inl ⟨⟨holder, rfl, isOpen⟩, by simp [register, found, isOpen]⟩
    | false => simp [register, found, isOpen]

@[simp] theorem isOpen_accept (registry : Registry) (stale : Option Node) (node : NodeDescription)
    (session other : Session) :
    (registry.accept stale node session).2.isOpen other = registry.isOpen other := rfl

theorem find?_accept_self (registry : Registry) (stale : Option Node) (node : NodeDescription)
    (session : Session) :
    (registry.accept stale node session).2.find? node.name =
      some ⟨node, registry.counter.draw.1, session⟩ :=
  NodeTable.find?_insert_self _ _

theorem find?_accept_of_ne {registry : Registry} {stale : Option Node} {node : NodeDescription}
    {session : Session} {name : Text} (other : name ≠ node.name) :
    (registry.accept stale node session).2.find? name = registry.find? name :=
  NodeTable.find?_insert_of_ne other

/-- A node that is put in the place of another one sends it into the history. -/
theorem history_accept (registry : Registry) (stale : Option Node) (node : NodeDescription)
    (session : Session) :
    (registry.accept stale node session).2.history =
      (stale.toList.map Node.retirement).foldl History.push registry.history := by
  cases stale <;> rfl

end Registry

namespace Activity

/-- What an event does to the registry and to the registrations that an activity remembers. -/
inductive Change (before after : Activity) : Prop
  | close (session : Session) (registry : after.registry = before.registry.close session)
      (accepted : after.accepted = before.accepted) (ended : after.ended = before.ended)
  | accept (node : NodeDescription) (session : Session)
      (stale : ∀ holder, before.registry.find? node.name = some holder →
        before.registry.isOpen holder.session = false)
      (registry : after.registry =
        (before.registry.accept (before.registry.find? node.name) node session).2)
      (accepted : after.accepted =
        before.accepted ++ [⟨node, before.registry.counter.draw.1, session⟩])
      (ended : after.ended = before.ended ++ (before.registry.find? node.name).toList)
  | retire (nodes : List Node) (retires : before.registry.Retires nodes after.registry)
      (accepted : after.accepted = before.accepted) (ended : after.ended = before.ended ++ nodes)

/-- The nodes of each outstanding check are in ascending order of their names. -/
def Ordered (activity : Activity) : Prop :=
  ∀ checks ∈ activity.pending, Node.Ascending (checks.map (·.node))

/-! ## The registrations that end -/

theorem change_of_retires {before : Activity} {registry : Registry} {nodes : List Node}
    (retires : before.registry.Retires nodes registry) (ascending : Node.Ascending nodes)
    (pending : List (List Check)) :
    Change before { before.become registry with pending } :=
  .retire nodes retires rfl (congrArg (before.ended ++ ·) (retires.missing_eq ascending))

/-- The registry did not change. -/
theorem change_of_same {before after : Activity} (registry : after.registry = before.registry)
    (accepted : after.accepted = before.accepted) (ended : after.ended = before.ended) :
    Change before after :=
  .retire [] (registry ▸ .none) accepted (by simp [ended])

theorem change_of_register (before : Activity) (node : NodeDescription) (session : Session) :
    Change before (before.register node session) := by
  rcases before.registry.register_cases node session with ⟨_, refused⟩ | ⟨stale, accepted⟩
  · simp only [register, refused]
    exact change_of_retires .none .nil before.pending
  · simp only [register, accepted, Registry.accept]
    exact .accept node session stale rfl rfl rfl

theorem change_of_settle (before : Activity) {checks : List Check}
    (ascending : Node.Ascending (checks.map (·.node))) (responds : Node → Bool)
    (pending : List (List Check)) :
    Change before
      { before.become (before.registry.settle (checks.map (·.verdict responds))).2 with pending } := by
  obtain ⟨nodes, retires, ordered⟩ := before.registry.settle_retires (checks.map (·.verdict responds))
  rw [← Registry.map_node_verdicts checks responds] at ascending
  exact change_of_retires retires (ordered ascending) pending

theorem pending_register (activity : Activity) (node : NodeDescription) (session : Session) :
    (activity.register node session).pending = activity.pending := by
  unfold register
  split <;> rfl

/-- Every event makes one of the three changes, and the checks stay in order. -/
theorem change_of_step {before after : Activity} {event : RegistryEvent} (ordered : before.Ordered)
    (step : before.step event = some after) : Change before after ∧ after.Ordered := by
  cases event with
  | openSession peer =>
    obtain ⟨id, _, ⟨⟩⟩ := Option.bind_eq_some_iff.mp step
    exact ⟨change_of_same rfl rfl rfl, ordered⟩
  | closeSession id =>
    obtain ⟨session, _, ⟨⟩⟩ := Option.bind_eq_some_iff.mp step
    exact ⟨.close session rfl rfl (by simp [become, Registry.close]), ordered⟩
  | register node id =>
    obtain ⟨session, _, ⟨⟩⟩ := Option.bind_eq_some_iff.mp step
    refine ⟨change_of_register before node session, fun checks member => ?_⟩
    rw [pending_register] at member
    exact ordered checks member
  | remove name =>
    cases step
    exact ⟨change_of_retires (before.registry.remove_retires name) (Node.Ascending.toList _) _, ordered⟩
  | removeSession name id =>
    cases step
    exact ⟨change_of_retires (before.registry.removeSession_retires name id) (Node.Ascending.toList _) _,
      ordered⟩
  | clear =>
    cases step
    exact ⟨change_of_retires before.registry.clear_retires before.registry.table.ascending _, ordered⟩
  | beginLookup name =>
    cases step
    refine ⟨change_of_same rfl rfl rfl, List.forall_mem_cons.mpr ⟨?_, ordered⟩⟩
    rw [Registry.map_node_checks]
    exact Node.Ascending.toList _
  | beginList =>
    cases step
    refine ⟨change_of_same rfl rfl rfl, List.forall_mem_cons.mpr ⟨?_, ordered⟩⟩
    rw [Registry.map_node_checks]
    exact before.registry.table.ascending
  | settle place responds =>
    obtain ⟨checks, found, ⟨⟩⟩ := Option.bind_eq_some_iff.mp step
    exact ⟨change_of_settle before (ordered checks (List.mem_of_getElem? found)) responds _,
      fun checks member => ordered checks (List.mem_of_mem_eraseIdx member)⟩

/-! ## All activities -/

/-- What holds at the start and is kept by every event holds of every activity. -/
theorem Reachable.invariant {motive : Activity → Prop} (start : ∀ seed, motive (start seed))
    (kept : ∀ {before event after}, motive before → before.step event = some after → motive after)
    {activity : Activity} (reachable : activity.Reachable) : motive activity := by
  obtain ⟨seed, events, run⟩ := reachable
  exact holds_of_run kept run (start seed)

/-- What a run leads to from an activity is one. -/
theorem Reachable.run {before after : Activity} {events : List RegistryEvent} (reachable : before.Reachable)
    (run : before.run events = some after) : after.Reachable := by
  obtain ⟨seed, earlier, began⟩ := reachable
  refine ⟨seed, earlier ++ events, ?_⟩
  rw [Activity.run, List.foldlM_append]
  exact Option.bind_eq_some_iff.mpr ⟨before, began, run⟩

theorem ordered_start (seed : UInt16) : (start seed).Ordered :=
  nofun

theorem Reachable.ordered {activity : Activity} (reachable : activity.Reachable) :
    activity.Ordered :=
  reachable.invariant ordered_start fun ordered step => (change_of_step ordered step).2

/-- What each of the three changes keeps, a run keeps. -/
theorem holds_of_changes {motive : Activity → Prop}
    (change : ∀ {before after}, Change before after → motive before → motive after) {before after : Activity}
    {events : List RegistryEvent} (ordered : before.Ordered) (run : before.run events = some after)
    (holds : motive before) : motive after := by
  refine (holds_of_run (motive := fun activity => activity.Ordered ∧ motive activity) ?_ run ⟨ordered, holds⟩).2
  rintro before event after ⟨ordered, holds⟩ step
  obtain ⟨changed, ordered⟩ := change_of_step ordered step
  exact ⟨ordered, change changed holds⟩

/-- What holds at the start and is kept by each of the three changes holds of every activity. -/
theorem Reachable.induct {motive : Activity → Prop} (start : ∀ seed, motive (start seed))
    (change : ∀ {before after}, Change before after → motive before → motive after)
    {activity : Activity} (reachable : activity.Reachable) : motive activity := by
  obtain ⟨seed, events, run⟩ := reachable
  exact holds_of_changes change (ordered_start seed) run (start seed)

end Activity

end PortMapper
