import PortMapper.Registry.Table

/-!
# Tables and their nodes

The nodes of a table are in the order of their names, so they are given by their members (`Node.Ascending.ext`) or by
what is found under each name (`NodeTable.nodes_eq_map`), and what an insertion or a removal does to the members says
which nodes came and which went.
-/

namespace PortMapper

/-- Nodes in ascending order of their names. -/
def Node.Ascending (nodes : List Node) : Prop :=
  nodes.Pairwise fun a b => a.name < b.name

/-- What an eviction goes by: the name of a node and the number of its session. -/
def Node.claim (node : Node) : Text × UInt64 :=
  (node.name, node.session.id)

namespace Node.Ascending

variable {nodes others : List Node}

theorem nodup (ascending : Ascending nodes) : nodes.Nodup := by
  refine ascending.imp fun {a b} lower same => ?_
  subst same
  exact List.lt_irrefl _ lower

theorem distinct (ascending : Ascending nodes) : nodes.Pairwise fun node other => node.name ≠ other.name :=
  ascending.imp fun lower => Std.ne_of_lt lower

/-- Nodes in ascending order are given by their members. -/
theorem ext (first : Ascending nodes) (second : Ascending others)
    (same : ∀ node, node ∈ nodes ↔ node ∈ others) : nodes = others := by
  have perm := (List.perm_ext_iff_of_nodup first.nodup second.nodup).mpr same
  refine perm.eq_of_pairwise ?_ first second
  intro a b _ _ lower higher
  exact absurd (List.lt_trans lower higher) (List.lt_irrefl _)

/-- The names of nodes with ascending claims ascend. -/
theorem of_claims (ascending : Ascending others)
    (claims : (nodes.map Node.claim).Sublist (others.map Node.claim)) : Ascending nodes := by
  have lower : (others.map Node.claim).Pairwise fun a b => a.1 < b.1 :=
    List.pairwise_map.mpr ascending
  have kept := lower.sublist claims
  rw [List.pairwise_map] at kept
  exact kept

theorem toList (node : Option Node) : Ascending node.toList := by
  cases node with
  | none => exact .nil
  | some node => exact List.pairwise_singleton _ node

end Node.Ascending

namespace NodeTable

theorem eq_of_name_eq {nodes : List Node} (ascending : Node.Ascending nodes) {a b : Node}
    (ha : a ∈ nodes) (hb : b ∈ nodes) (same : a.name = b.name) : a = b := by
  induction nodes with
  | nil => cases ha
  | cons head rest ih =>
    obtain ⟨above, sorted⟩ := List.pairwise_cons.mp ascending
    rcases List.mem_cons.mp ha with rfl | inRest
    · rcases List.mem_cons.mp hb with rfl | hb
      · rfl
      · exact absurd (same ▸ above b hb) (List.lt_irrefl _)
    · rcases List.mem_cons.mp hb with rfl | hb
      · exact absurd (same ▸ above a inRest) (List.lt_irrefl _)
      · exact ih sorted inRest hb

theorem find?_eq_some_iff {table : NodeTable} {name : Text} {node : Node} :
    table.find? name = some node ↔ node ∈ table.nodes ∧ node.name = name := by
  constructor
  · intro found
    exact ⟨List.mem_of_find?_eq_some found, by simpa using List.find?_some found⟩
  · rintro ⟨member, rfl⟩
    cases found : table.find? node.name with
    | none => exact absurd (List.find?_eq_none.mp found node member) (by simp)
    | some other =>
      have same : other.name = node.name := by simpa using List.find?_some found
      exact congrArg some
        (eq_of_name_eq table.ascending (List.mem_of_find?_eq_some found) member same)

theorem mem_iff_find? {table : NodeTable} {node : Node} :
    node ∈ table.nodes ↔ table.find? node.name = some node := by
  rw [find?_eq_some_iff, and_iff_left rfl]

/-- The nodes of a table are in ascending order of their names. -/
theorem nodes_ascending (table : NodeTable) : Node.Ascending table.nodes :=
  table.ascending

theorem nodup (table : NodeTable) : table.nodes.Nodup :=
  table.nodes_ascending.nodup

theorem mem_erase {table : NodeTable} {name : Text} {node : Node} :
    node ∈ (table.erase name).nodes ↔ node ∈ table.nodes ∧ node.name ≠ name := by
  simp [erase]

theorem mem_insert {table : NodeTable} {newcomer node : Node} : node ∈ (table.insert newcomer).nodes ↔
    node = newcomer ∨ node ∈ table.nodes ∧ node.name ≠ newcomer.name := by
  rw [mem_iff_find?, mem_iff_find?]
  by_cases same : node.name = newcomer.name
  · rw [same, find?_insert_self, Option.some.injEq]
    constructor
    · exact fun equal => .inl equal.symm
    · rintro (equal | ⟨_, other⟩)
      · exact equal.symm
      · exact absurd rfl other
  · have other : node ≠ newcomer := fun equal => same (congrArg Node.name equal)
    rw [find?_insert_of_ne same, or_iff_right other, and_iff_left same]

/-- A table whose nodes are found as those of another one, but for a change that keeps their names. -/
theorem nodes_eq_map {before after : NodeTable} {change : Node → Node}
    (named : ∀ node, (change node).name = node.name)
    (found : ∀ name, after.find? name = (before.find? name).map change) :
    after.nodes = before.nodes.map change := by
  have ascending : Node.Ascending (before.nodes.map change) := by
    refine List.pairwise_map.mpr (before.ascending.imp fun lower => ?_)
    rwa [named, named]
  refine after.nodes_ascending.ext ascending fun node => ?_
  rw [mem_iff_find?, found, Option.map_eq_some_iff, List.mem_map]
  refine exists_congr fun old => and_congr_left fun changed => ?_
  rw [find?_eq_some_iff, and_iff_left]
  rw [← changed, named]

section Insert

variable {table : NodeTable} {newcomer : Node} (absent : newcomer ∉ table.nodes)

include absent

/-- The nodes that an insertion brings into a table. -/
theorem arrivals_insert :
    (table.insert newcomer).nodes.filter (!table.nodes.contains ·) = [newcomer] := by
  refine Node.Ascending.ext ((table.insert newcomer).nodes_ascending.filter _)
    (List.pairwise_singleton _ _) fun node => ?_
  rw [List.mem_filter, mem_insert, List.mem_singleton, Bool.not_eq_true', List.contains_eq_mem,
    decide_eq_false_iff_not]
  constructor
  · rintro ⟨same | ⟨old, _⟩, new⟩
    · exact same
    · exact absurd old new
  · rintro rfl
    exact ⟨.inl rfl, absent⟩

/-- The nodes that an insertion takes out of a table. -/
theorem departures_insert :
    table.nodes.filter (!(table.insert newcomer).nodes.contains ·) = (table.find? newcomer.name).toList := by
  refine Node.Ascending.ext (table.nodes_ascending.filter _) (Node.Ascending.toList _) fun node => ?_
  rw [List.mem_filter, Option.mem_toList, find?_eq_some_iff, Bool.not_eq_true', List.contains_eq_mem,
    decide_eq_false_iff_not, mem_insert, not_or, not_and, Decidable.not_not]
  constructor
  · rintro ⟨old, _, displaced⟩
    exact ⟨old, displaced old⟩
  · rintro ⟨old, same⟩
    refine ⟨old, ?_, fun _ => same⟩
    rintro rfl
    exact absent old

end Insert

end NodeTable

end PortMapper
