import PortMapper.Proofs.Registry.History
import PortMapper.Proofs.Registry.Holding

/-!
# Taking nodes out

What a sequence of retirements amounts to (`Registry.TakenOut`): the nodes are gone and all others are as they were,
their sessions are closed and no others, and the history has an entry for each of them.

A registry is cleared by removing one name after the other. In whatever order the names come, each is met once while it
is still registered, so that all nodes are taken out and counted (`Registry.removeAll_of_perm`). Nobody comes into an
empty registry but by registering (`Activity.nodes_of_run_of_empty`).
-/

namespace PortMapper

namespace Registry

/-- The registry after some nodes were taken out of it. -/
structure TakenOut (registry : Registry) (gone : List Node) (after : Registry) : Prop where
  registered : gone ⊆ registry.table.nodes
  once : gone.Nodup
  /-- All other nodes are as they were. -/
  left : after.table.nodes = registry.table.nodes.filter (· ∉ gone)
  /-- The sessions of the nodes that are gone are closed, and all others are as they were. -/
  isOpen_iff : ∀ session, after.isOpen session = true ↔
    registry.isOpen session = true ∧ ∀ node ∈ gone, node.session.id ≠ session.id
  /-- Each of them is put into the history once, which keeps the latest entries. -/
  history : after.history.entries =
    (registry.history.entries ++ gone.map Node.retirement).drop
      (registry.history.entries.length + gone.length - History.capacity)
  counter : after.counter = registry.counter

variable {registry after : Registry} {gone : List Node}

theorem Retires.takenOut (retires : Retires registry gone after) : registry.TakenOut gone after where
  registered := retires.subset
  once := retires.nodup
  left := retires.nodes_eq_filter
  isOpen_iff := fun session => by
    rw [Registry.isOpen_iff, Registry.isOpen_iff, retires.mem_closed, not_or]
    simp only [not_exists, not_and, ne_eq]
  history := by rw [retires.history, History.entries_foldl_push, List.length_map]
  counter := retires.counter

/-! ## Every name -/

/-- Removing the names of all nodes, in whatever order, takes every node out and counts each once. -/
theorem removeAll_of_perm {entries : List Node} (perm : entries.Perm registry.table.nodes) :
    (registry.removeAll (entries.map (·.name))).1 = registry.size ∧
      registry.TakenOut entries (registry.removeAll (entries.map (·.name))).2 := by
  have distinct := (perm.pairwise_iff Ne.symm).mpr registry.table.nodes_ascending.distinct
  have registered : ∀ node ∈ entries, registry.find? node.name = some node := fun node member =>
    find?_eq_some_iff.mpr ⟨perm.mem_iff.mp member, rfl⟩
  rw [removeAll_of_registered distinct registered]
  exact ⟨perm.length_eq, (retires_foldl (fun _ _ _ => rfl) distinct registered).takenOut⟩

theorem TakenOut.nodes_of_perm (takenOut : registry.TakenOut gone after) (perm : gone.Perm registry.table.nodes) :
    after.table.nodes = [] := by
  rw [takenOut.left, List.filter_eq_nil_iff]
  intro node registered
  simpa using perm.mem_iff.mpr registered

end Registry

namespace Activity

/-! ## After everybody has left -/

/-- A registry without nodes has none until a registration is accepted. -/
theorem nodes_of_run_of_empty {before after : Activity} {events : List RegistryEvent} (ordered : before.Ordered)
    (empty : before.registry.table.nodes = []) (run : before.run events = some after)
    (nobody : after.accepted = before.accepted) : after.registry.table.nodes = [] := by
  have kept : before.accepted.length ≤ after.accepted.length ∧
      (after.accepted.length = before.accepted.length → after.registry.table.nodes = []) := by
    refine holds_of_changes (motive := fun activity => before.accepted.length ≤ activity.accepted.length ∧
      (activity.accepted.length = before.accepted.length → activity.registry.table.nodes = [])) ?_ ordered run
      ⟨Nat.le_refl _, fun _ => empty⟩
    intro earlier later change ⟨grown, still⟩
    cases change with
    | close session registry accepted _ =>
      rw [accepted, registry]
      exact ⟨grown, still⟩
    | accept node session _ _ accepted _ =>
      rw [accepted, List.length_append, List.length_singleton]
      exact ⟨Nat.le_succ_of_le grown, fun same => by omega⟩
    | retire nodes retires accepted _ =>
      rw [accepted, retires.nodes_eq_filter]
      refine ⟨grown, fun same => ?_⟩
      rw [still same]
      rfl
  exact kept.2 (congrArg List.length nobody)

end Activity

end PortMapper
