import PortMapper.Proofs.Registry.Holding

/-!
# An open session keeps its name

A name belongs to the session that registered it for as long as that session is open: of all the ways in
which a node can leave the table, each closes its session or finds it closed (`open_registration_keeps_name`).
-/

namespace PortMapper.Activity

/-- Each registration whose session is open is the one under its name. -/
def Held (activity : Activity) : Prop :=
  ∀ node ∈ activity.accepted, activity.registry.isOpen node.session = true →
    activity.registry.find? node.name = some node

/-! ## What one change keeps -/

theorem held_of_change {before after : Activity} (change : Change before after)
    (held : before.Held) : after.Held := by
  intro node member
  cases change with
  | close session registry accepted _ =>
    rw [accepted] at member
    rw [registry]
    exact Registry.holds_of_close session (held node member)
  | accept description session stale registry accepted _ =>
    rw [accepted, List.mem_append, List.mem_singleton] at member
    rw [registry]
    rcases member with old | rfl
    · exact Registry.holds_of_accept stale (held node old)
    · exact fun _ => Registry.find?_accept_self _ _ _ _
  | retire nodes retires accepted _ =>
    rw [accepted] at member
    exact Registry.holds_of_retires retires (held node member)

theorem held_of_reachable {activity : Activity} (reachable : activity.Reachable) : activity.Held := by
  refine reachable.induct (motive := Held) ?_ held_of_change
  intro seed node member
  cases member

/-- A node that is missing after a change has a closed session. -/
theorem closed_of_missing {before after : Activity} (change : Change before after) {node : Node}
    (registered : node ∈ before.registry.table.nodes)
    (missing : node ∉ after.registry.table.nodes) : after.registry.isOpen node.session = false := by
  rw [Bool.eq_false_iff]
  intro isOpen
  have found := Registry.find?_eq_some_iff.mpr ⟨registered, rfl⟩
  cases change with
  | close session registry _ _ =>
    rw [registry] at missing
    exact missing registered
  | accept description session stale registry _ _ =>
    by_cases same : node.name = description.name
    · rw [same] at found
      rw [registry, Registry.isOpen_accept, stale node found] at isOpen
      cases isOpen
    · have kept : after.registry.find? node.name = some node := by
        rw [registry, Registry.find?_accept_of_ne same, found]
      exact missing (Registry.find?_eq_some_iff.mp kept).1
  | retire nodes retires _ _ =>
    obtain ⟨_, kept⟩ := Registry.isOpen_of_retires retires isOpen
    exact missing (retires.mem_nodes.mpr ⟨registered, kept⟩)

/-! ## No open session loses its name -/

/-- Whatever has happened, with checks outstanding or not: a registration that was accepted and whose session
is open is the one under its name, as it was accepted. So two open sessions never have the same name, a node
leaves the table only if its session is closed, and a registration that is refused changes nothing. -/
theorem open_registration_keeps_name {activity : Activity} (reachable : activity.Reachable) :
    (∀ node ∈ activity.accepted, activity.registry.isOpen node.session = true →
      activity.registry.find? node.name = some node) ∧
    (∀ node ∈ activity.accepted, ∀ other ∈ activity.accepted,
      activity.registry.isOpen node.session = true → activity.registry.isOpen other.session = true →
      node.name = other.name → node.session = other.session) ∧
    (∀ event after, activity.step event = some after →
      ∀ node ∈ activity.registry.table.nodes, node ∉ after.registry.table.nodes →
        after.registry.isOpen node.session = false) ∧
    (∀ node session, (activity.registry.register node session).1 = .conflict →
      (activity.registry.register node session).2 = activity.registry) := by
  have held := held_of_reachable reachable
  refine ⟨held, ?_, ?_, ?_⟩
  · intro node accepted other otherAccepted isOpen otherOpen same
    have found := held node accepted isOpen
    rw [same, held other otherAccepted otherOpen, Option.some.injEq] at found
    rw [found]
  · intro event after step node registered missing
    exact closed_of_missing (change_of_step reachable.ordered step).1 registered missing
  · intro node session refused
    rcases activity.registry.register_cases node session with ⟨_, same⟩ | ⟨_, same⟩
    · rw [same]
    · rw [same] at refused
      cases refused

/-- A listing begins, the session of the only node closes, another session takes its name, and the listing
ends with nobody responding. -/
def handover : List RegistryEvent :=
  [.openSession ⟨.loopback, 40000, 0⟩, .openSession ⟨.loopback, 40001, 0⟩,
    .register { port := 1, name := ['a'] } 1, .beginList, .closeSession 1,
    .register { port := 2, name := ['a'] } 2, .settle 0 fun _ => false]

/-- After a handover the newcomer has the name. -/
theorem open_registration_keeps_name_of_newcomer :
    ∃ activity : Activity, (start 1).run handover = some activity ∧
      activity.registry.find? ['a'] =
        some ⟨{ port := 2, name := ['a'] }, 2, ⟨2, ⟨.loopback, 40001, 0⟩⟩⟩ := by
  refine ⟨((start 1).run handover).get (by decide), (Option.some_get _).symm, ?_⟩
  exact (open_registration_keeps_name ⟨1, handover, (Option.some_get _).symm⟩).1
    ⟨{ port := 2, name := ['a'] }, 2, ⟨2, ⟨.loopback, 40001, 0⟩⟩⟩ (by decide) (by decide)

end PortMapper.Activity
