import PortMapper.Proofs.Registry.Table
import PortMapper.Registry.Basic

/-!
# What takes nodes out of a registry

Removing a name, removing the node of a session, clearing the registry and settling a check have one thing
in common: they retire nodes one after another, each while it is the one under its name. `Retires` says so,
and the effect of such a sequence is derived from it once.

* Each of the four operations retires nodes (`remove_retires`, `removeSession_retires`, `clear_retires`,
  `settle_retires`), and their names come in the order in which the operation was given them.
* What is left of the table, the history, the sessions and the counter (`Retires.find?_eq_some_iff`,
  `Retires.perm`, `Retires.history`, `Retires.mem_closed`, `Retires.counter`).
-/

namespace PortMapper

namespace Registry

variable {registry after : Registry} {nodes : List Node}

theorem find?_eq_some_iff {name : Text} {node : Node} :
    registry.find? name = some node ↔ node ∈ registry.table.nodes ∧ node.name = name :=
  NodeTable.find?_eq_some_iff

theorem mem_retire {node other : Node} (found : registry.find? node.name = some node) :
    other ∈ (registry.retire node).table.nodes ↔ other ∈ registry.table.nodes ∧ other ≠ node := by
  have registered := (find?_eq_some_iff.mp found).1
  simp only [retire, NodeTable.mem_erase, ne_eq]
  constructor
  · rintro ⟨member, differs⟩
    exact ⟨member, fun same => differs (by rw [same])⟩
  · rintro ⟨member, differs⟩
    refine ⟨member, fun same => differs ?_⟩
    exact NodeTable.eq_of_name_eq registry.table.ascending member registered same

/-- The registry becomes another one when the nodes are retired one after another, each while it is the one
under its name. -/
inductive Retires : Registry → List Node → Registry → Prop
  | none {registry : Registry} : Retires registry [] registry
  | one {registry after : Registry} {node : Node} {nodes : List Node} :
      registry.find? node.name = some node → Retires (registry.retire node) nodes after →
      Retires registry (node :: nodes) after

/-! ## The effect -/

namespace Retires

theorem mem_nodes (retires : Retires registry nodes after) {node : Node} :
    node ∈ after.table.nodes ↔ node ∈ registry.table.nodes ∧ node ∉ nodes := by
  induction retires with
  | none => simp
  | one found _ ih => simp only [ih, mem_retire found, List.mem_cons, not_or, and_assoc]

theorem subset (retires : Retires registry nodes after) : nodes ⊆ registry.table.nodes := by
  induction retires with
  | none => simp
  | one found _ ih =>
    intro node member
    rcases List.mem_cons.mp member with rfl | member
    · exact (find?_eq_some_iff.mp found).1
    · exact ((mem_retire found).mp (ih member)).1

theorem nodup (retires : Retires registry nodes after) : nodes.Nodup := by
  induction retires with
  | none => exact .nil
  | one found rest ih =>
    refine List.nodup_cons.mpr ⟨fun again => ?_, ih⟩
    exact ((mem_retire found).mp (rest.subset again)).2 rfl

theorem find?_eq_some_iff (retires : Retires registry nodes after) {name : Text} {node : Node} :
    after.find? name = some node ↔ registry.find? name = some node ∧ node ∉ nodes := by
  rw [Registry.find?_eq_some_iff, Registry.find?_eq_some_iff, retires.mem_nodes, and_right_comm]

/-- The table splits into the nodes that were retired and those that are left. -/
theorem perm (retires : Retires registry nodes after) :
    registry.table.nodes.Perm (nodes ++ after.table.nodes) := by
  have apart : (nodes ++ after.table.nodes).Nodup := by
    refine List.nodup_append.mpr ⟨retires.nodup, after.table.nodup, ?_⟩
    rintro node retired other left rfl
    exact (retires.mem_nodes.mp left).2 retired
  refine (List.perm_ext_iff_of_nodup registry.table.nodup apart).mpr fun node => ?_
  rw [List.mem_append, retires.mem_nodes]
  constructor
  · intro member
    exact (Decidable.em (node ∈ nodes)).imp id fun kept => ⟨member, kept⟩
  · rintro (retired | ⟨member, _⟩)
    · exact retires.subset retired
    · exact member

/-- The table without the nodes that were retired. -/
theorem nodes_eq_filter (retires : Retires registry nodes after) :
    after.table.nodes = registry.table.nodes.filter (· ∉ nodes) := by
  refine after.table.nodes_ascending.ext (registry.table.nodes_ascending.filter _) fun node => ?_
  rw [retires.mem_nodes, List.mem_filter, decide_eq_true_iff]

/-- The nodes that are missing from a table after some were retired are those, in the same order. -/
theorem missing_eq (retires : Retires registry nodes after) (ascending : Node.Ascending nodes) :
    registry.table.nodes.filter (!after.table.nodes.contains ·) = nodes := by
  refine Node.Ascending.ext (registry.table.ascending.filter _) ascending fun node => ?_
  simp only [List.mem_filter, Bool.not_eq_true', List.contains_eq_mem, decide_eq_false_iff_not,
    retires.mem_nodes, not_and, Decidable.not_not]
  exact ⟨fun ⟨member, gone⟩ => gone member, fun retired => ⟨retires.subset retired, fun _ => retired⟩⟩

theorem history (retires : Retires registry nodes after) :
    after.history = (nodes.map Node.retirement).foldl History.push registry.history := by
  induction retires with
  | none => rfl
  | one _ _ ih => simp only [ih, retire, List.map_cons, List.foldl_cons]

theorem mem_closed (retires : Retires registry nodes after) {id : UInt64} :
    id ∈ after.closed ↔ id ∈ registry.closed ∨ ∃ node ∈ nodes, node.session.id = id := by
  induction retires with
  | none => simp
  | one _ _ ih =>
    simp only [ih, retire, ClosedSessions.mem_close, List.mem_cons, or_and_right, exists_or,
      exists_eq_left]
    rw [eq_comm, or_left_comm, or_assoc]

theorem counter (retires : Retires registry nodes after) : after.counter = registry.counter := by
  induction retires with
  | none => rfl
  | one _ _ ih => exact ih

end Retires

/-! ## The operations -/

theorem remove_retires (registry : Registry) (name : Text) :
    Retires registry (registry.find? name).toList (registry.remove name).2 := by
  unfold remove
  cases found : registry.find? name with
  | none => exact .none
  | some node =>
    obtain ⟨_, rfl⟩ := find?_eq_some_iff.mp found
    exact .one found .none

theorem removeSession_retires (registry : Registry) (name : Text) (session : UInt64) :
    Retires registry ((registry.find? name).filter (·.session.id = session)).toList
      (registry.removeSession name session).2 := by
  unfold removeSession
  cases found : registry.find? name with
  | none => exact .none
  | some node =>
    obtain ⟨_, rfl⟩ := find?_eq_some_iff.mp found
    rw [Option.filter_some]
    by_cases owned : node.session.id = session
    · simp only [owned, decide_true, if_true]
      exact .one found .none
    · simp only [owned, decide_false, Bool.false_eq_true, if_false]
      exact .none

theorem evict_eq_retire {node : Node} (found : registry.find? node.name = some node) :
    registry.evict node = registry.retire node := by
  simp [evict, removeSession, found]

/-- A node that was retired leaves those of other names where they are. -/
theorem find?_retire_of_ne {node other : Node} (differ : node.name ≠ other.name) :
    (registry.retire node).find? other.name = registry.find? other.name :=
  NodeTable.find?_erase_of_ne differ.symm

/-- An operation that retires a node whenever it meets one that is registered retires every node of a list of
registered ones, in whatever order they come. -/
theorem retires_foldl {operation : Registry → Node → Registry}
    (retiring : ∀ registry node, registry.find? node.name = some node →
      operation registry node = registry.retire node)
    (distinct : nodes.Pairwise fun node other => node.name ≠ other.name)
    (registered : ∀ node ∈ nodes, registry.find? node.name = some node) :
    Retires registry nodes (nodes.foldl operation registry) := by
  induction nodes generalizing registry with
  | nil => exact .none
  | cons node nodes ih =>
    obtain ⟨differ, distinct⟩ := List.pairwise_cons.mp distinct
    have found := registered node List.mem_cons_self
    rw [List.foldl_cons, retiring registry node found]
    -- The others have other names, so they are still registered.
    refine .one found (ih distinct fun other member => ?_)
    rw [find?_retire_of_ne (differ other member)]
    exact registered other (List.mem_cons_of_mem _ member)

/-- Removing the names of registered nodes retires these nodes one after another and counts them. -/
theorem removeAll_of_registered (distinct : nodes.Pairwise fun node other => node.name ≠ other.name)
    (registered : ∀ node ∈ nodes, registry.find? node.name = some node) :
    registry.removeAll (nodes.map (·.name)) = (nodes.length, nodes.foldl retire registry) := by
  induction nodes generalizing registry with
  | nil => rfl
  | cons node nodes ih =>
    obtain ⟨differ, distinct⟩ := List.pairwise_cons.mp distinct
    have found := registered node List.mem_cons_self
    have removed : registry.remove node.name = (some node, registry.retire node) := by simp only [remove, found]
    -- The others have other names, so they are still registered.
    have rest : (registry.retire node).removeAll (nodes.map (·.name)) = _ := ih distinct fun other member => by
      rw [find?_retire_of_ne (differ other member)]
      exact registered other (List.mem_cons_of_mem _ member)
    simp only [List.map_cons, removeAll, removed, rest]
    rfl

theorem clear_retires (registry : Registry) :
    Retires registry registry.table.nodes registry.clear.2 := by
  have distinct := registry.table.nodes_ascending.distinct
  have registered : ∀ node ∈ registry.table.nodes, registry.find? node.name = some node := fun node member =>
    find?_eq_some_iff.mpr ⟨member, rfl⟩
  rw [clear, removeAll_of_registered distinct registered]
  exact retires_foldl (fun _ _ _ => rfl) distinct registered

/-- Evicting some nodes retires those of them whose names have not changed hands, or others that the same
sessions put under the same names. -/
theorem foldl_evict_retires (registry : Registry) (dead : List Node) :
    ∃ nodes, Retires registry nodes (dead.foldl evict registry) ∧
      (nodes.map Node.claim).Sublist (dead.map Node.claim) := by
  induction dead generalizing registry with
  | nil => exact ⟨[], .none, .slnil⟩
  | cons node dead ih =>
    obtain ⟨nodes, retires, sublist⟩ := ih (registry.evict node)
    rw [List.foldl_cons, List.map_cons]
    cases found : registry.find? node.name with
    | none =>
      have same : registry.evict node = registry := by simp [evict, removeSession, found]
      rw [same] at retires ⊢
      exact ⟨nodes, retires, sublist.cons _⟩
    | some holder =>
      obtain ⟨_, named⟩ := find?_eq_some_iff.mp found
      -- The name may have changed hands since the node was found dead.
      by_cases owned : holder.session.id = node.session.id
      · have same : registry.evict node = registry.retire holder := by
          simp [evict, removeSession, found, owned]
        rw [same] at retires ⊢
        refine ⟨holder :: nodes, .one (by rw [named]; exact found) retires, ?_⟩
        have claim : holder.claim = node.claim := Prod.ext named owned
        rw [List.map_cons, claim]
        exact sublist.cons_cons _
      · have same : registry.evict node = registry := by
          simp [evict, removeSession, found, owned]
        rw [same] at retires ⊢
        exact ⟨nodes, retires, sublist.cons _⟩

/-- The nodes that a settled check retires are in order if the checked ones were. -/
theorem settle_retires (registry : Registry) (verdicts : List Verdict) :
    ∃ nodes, Retires registry nodes (registry.settle verdicts).2 ∧
      (Node.Ascending (verdicts.map (·.1)) → Node.Ascending nodes) := by
  obtain ⟨nodes, retires, claims⟩ :=
    registry.foldl_evict_retires ((verdicts.filter (!·.2)).map (·.1))
  refine ⟨nodes, retires, fun ascending => ?_⟩
  exact Node.Ascending.of_claims (ascending.sublist (List.filter_sublist.map _)) claims

/-! ## The nodes being checked -/

theorem map_node_checks (registry : Registry) (nodes : List Node) :
    (registry.checks nodes).map (·.node) = nodes := by
  rw [checks, List.map_map]
  exact List.map_id nodes

theorem map_node_verdicts (checks : List Check) (responds : Node → Bool) :
    (checks.map (·.verdict responds)).map (·.1) = checks.map (·.node) := by
  rw [List.map_map]
  rfl

end Registry

end PortMapper
