import PortMapper.Proofs.Registry.Activity
import PortMapper.Proofs.Registry.History

/-!
# Every registration ends once

A registration that was accepted is in the table or has ended, never both and never twice, and each end is put
into the history once, when it happens (`registration_ends_once`).
-/

namespace PortMapper.Activity

/-- The registrations that were accepted are those that ended and those in the table, and the history was
made by the ones that ended. -/
structure Conserved (activity : Activity) : Prop where
  split : activity.accepted.Perm (activity.ended ++ activity.registry.table.nodes)
  recorded : activity.registry.history = .ofList (activity.ended.map Node.retirement)

/-- Placing a node adds it to a list and takes out the one of its name. -/
theorem perm_place (node : Node) {nodes : List Node} (ascending : Node.Ascending nodes) :
    ((nodes.find? (·.name = node.name)).toList ++ NodeTable.place node nodes).Perm (node :: nodes) := by
  induction nodes with
  | nil => exact .refl _
  | cons head rest ih =>
    obtain ⟨above, sorted⟩ := List.pairwise_cons.mp ascending
    unfold NodeTable.place
    by_cases lower : node.name < head.name
    · have absent : (head :: rest).find? (·.name = node.name) = none := by
        refine List.find?_eq_none.mpr (List.forall_mem_cons.mpr ⟨?_, fun other member => ?_⟩)
        · simpa using (Std.ne_of_lt lower).symm
        · simpa using (Std.ne_of_lt (List.lt_trans lower (above other member))).symm
      rw [if_pos lower, absent]
      exact .refl _
    · by_cases higher : head.name < node.name
      · have other : head.name ≠ node.name := Std.ne_of_lt higher
        rw [if_neg lower, if_pos higher, List.find?_cons_of_neg (by simpa using other)]
        calc (rest.find? (·.name = node.name)).toList ++ head :: NodeTable.place node rest
          _ |>.Perm (head :: ((rest.find? (·.name = node.name)).toList ++ NodeTable.place node rest)) :=
            List.perm_middle
          _ |>.Perm (head :: node :: rest) := (ih sorted).cons head
          _ |>.Perm (node :: head :: rest) := .swap node head rest
      -- The node takes the place of the head, which is the one that is found.
      · have same := NodeTable.eq_of_not_lt lower higher
        rw [if_neg lower, if_neg higher, List.find?_cons_of_pos (by simp [same])]
        exact .swap node head rest

/-- What was accepted is what ended and what is in the table, after a node was accepted in the place of
another one or of none. -/
theorem split_accept {before : Activity} (node : NodeDescription) (session : Session)
    (split : before.accepted.Perm (before.ended ++ before.registry.table.nodes)) :
    (before.accepted ++ [(⟨node, before.registry.counter.draw.1, session⟩ : Node)]).Perm
      (before.ended ++ (before.registry.find? node.name).toList ++
        (before.registry.accept (before.registry.find? node.name) node session).2.table.nodes) := by
  let newcomer : Node := ⟨node, before.registry.counter.draw.1, session⟩
  let nodes := before.registry.table.nodes
  have placed : ((before.registry.find? node.name).toList ++ NodeTable.place newcomer nodes).Perm
      (newcomer :: nodes) := perm_place newcomer before.registry.table.ascending
  calc before.accepted ++ [newcomer]
    _ |>.Perm (newcomer :: before.accepted) := List.perm_append_singleton _ _
    _ |>.Perm (newcomer :: (before.ended ++ nodes)) := split.cons _
    _ |>.Perm (before.ended ++ newcomer :: nodes) := List.perm_middle.symm
    _ |>.Perm (before.ended ++ ((before.registry.find? node.name).toList ++
        NodeTable.place newcomer nodes)) := placed.symm.append_left _
    _ = before.ended ++ (before.registry.find? node.name).toList ++
        NodeTable.place newcomer nodes := (List.append_assoc _ _ _).symm

theorem conserved_of_change {before after : Activity} (change : Change before after)
    (conserved : before.Conserved) : after.Conserved := by
  obtain ⟨split, recorded⟩ := conserved
  cases change with
  | close session registry accepted ended =>
    refine ⟨?_, ?_⟩
    · rw [accepted, ended, registry]
      exact split
    · rw [ended, registry]
      exact recorded
  | accept node session stale registry accepted ended =>
    refine ⟨?_, ?_⟩
    · rw [accepted, ended, registry]
      exact split_accept node session split
    · rw [ended, registry, Registry.history_accept, recorded, List.map_append, History.ofList_append]
  | retire nodes retires accepted ended =>
    refine ⟨?_, ?_⟩
    · rw [accepted, ended, List.append_assoc]
      exact split.trans (retires.perm.append_left _)
    · rw [ended, retires.history, recorded, List.map_append, History.ofList_append]

theorem conserved_of_reachable {activity : Activity} (reachable : activity.Reachable) :
    activity.Conserved := by
  refine reachable.induct (motive := Conserved) ?_ conserved_of_change
  exact fun seed => ⟨.nil, rfl⟩

/-! ## Registrations are not forgotten -/

theorem accepted_of_change {before after : Activity} (change : Change before after) : before.accepted ⊆ after.accepted := by
  cases change with
  | close _ _ accepted _ | retire _ _ accepted _ =>
    rw [accepted]
    exact List.Subset.refl _
  | accept _ _ _ _ accepted _ =>
    rw [accepted]
    exact List.subset_append_left _ _

theorem accepted_of_run {before after : Activity} {events : List RegistryEvent} (reachable : before.Reachable)
    (run : before.run events = some after) : before.accepted ⊆ after.accepted := by
  refine holds_of_changes (motive := fun activity => before.accepted ⊆ activity.accepted) ?_ reachable.ordered run
    (List.Subset.refl _)
  exact fun change kept => List.Subset.trans kept (accepted_of_change change)

theorem nodes_subset_accepted {before : Activity} (reachable : before.Reachable) :
    before.registry.table.nodes ⊆ before.accepted := by
  intro node registered
  exact (conserved_of_reachable reachable).split.mem_iff.mpr (List.mem_append_right _ registered)

/-! ## The books at any point -/

/-- At every point of a run the accepted registrations are those in the table, each under its name, and those
that ended, and the history is the last of the latter, the oldest first. -/
theorem registration_ends_once {activity : Activity} (reachable : activity.Reachable) :
    activity.accepted.Perm (activity.registry.table.nodes ++ activity.ended) ∧
    (∀ node ∈ activity.registry.table.nodes, activity.registry.find? node.name = some node) ∧
    activity.accepted.length = activity.registry.size + activity.ended.length ∧
    activity.registry.history.entries.length = min History.capacity activity.ended.length ∧
    activity.registry.history.entries =
      (activity.ended.map fun node => ⟨node.name, node.port, node.session.id⟩).drop
        (activity.ended.length - History.capacity) := by
  obtain ⟨split, recorded⟩ := conserved_of_reachable reachable
  have whole := split.trans List.perm_append_comm
  refine ⟨whole, fun node registered => Registry.find?_eq_some_iff.mpr ⟨registered, rfl⟩, ?_, ?_, ?_⟩
  · rw [whole.length_eq, List.length_append, Registry.size, NodeTable.size]
  · rw [recorded, History.length_ofList, List.length_map]
  · rw [recorded, History.entries_ofList, List.length_map]
    rfl

/-- A listing finds a node dead that a stop has taken out already, and whose name is registered again. -/
def raced : List RegistryEvent :=
  [.openSession ⟨.loopback, 40000, 0⟩, .openSession ⟨.loopback, 40001, 0⟩,
    .register { port := 1, name := ['a'] } 1, .register { port := 2, name := ['b'] } 1, .beginList,
    .remove ['a'], .register { port := 3, name := ['a'] } 2, .settle 0 fun _ => false]

/-- After such a race the first node of the name has ended once, and the second one is registered. -/
theorem registration_ends_once_of_race :
    ∃ activity : Activity, (start 1).run raced = some activity ∧
      activity.registry.table.nodes.map (·.port) = [3] ∧ activity.ended.map (·.port) = [1, 2] ∧
      activity.accepted.length = activity.registry.size + activity.ended.length := by
  refine ⟨((start 1).run raced).get (by decide), (Option.some_get _).symm, by decide, by decide, ?_⟩
  exact (registration_ends_once ⟨1, raced, (Option.some_get _).symm⟩).2.2.1

end PortMapper.Activity
