import PortMapper.Proofs.Registry.History
import PortMapper.Proofs.Registry.Retiring

/-!
# What a listing finds and leaves

A listing that nothing interferes with finds the nodes that are alive, in ascending order of their names
(`list_nodes`). The registry is left with them, and the others are the last in its history (`list_table`,
`list_history`).
-/

namespace PortMapper.Registry

/-- Whether a node is alive: its session is open, and somebody answers at its address. -/
def isAlive (registry : Registry) (answers : SocketAddress → Bool) (node : Node) : Bool :=
  registry.isOpen node.session && answers node.probeAddress

/-- The nodes that are alive, in ascending order of their names. -/
def alive (registry : Registry) (answers : SocketAddress → Bool) : List Node :=
  registry.table.nodes.filter (registry.isAlive answers)

/-- The registered nodes that are not alive. -/
def dead (registry : Registry) (answers : SocketAddress → Bool) : List Node :=
  registry.table.nodes.filter (!registry.isAlive answers ·)

/-- A check that finds everybody alive leaves the registry as it is. -/
theorem settle_of_alive {registry : Registry} {verdicts : List Verdict}
    (alive : ∀ verdict ∈ verdicts, verdict.2 = true) : (registry.settle verdicts).2 = registry := by
  have nobody : verdicts.filter (!·.2) = [] := by
    rw [List.filter_eq_nil_iff]
    intro verdict member
    simp [alive verdict member]
  rw [settle, nobody]
  rfl

variable (registry : Registry) (answers : SocketAddress → Bool)

/-- The nodes with a certain verdict. A node is alive if its session was open when it was checked and it
responds. -/
theorem map_filter_checks (nodes : List Node) (responds : Node → Bool) (wanted : Bool → Bool) :
    ((((registry.checks nodes).map (·.verdict responds)).filter (wanted ·.2)).map (·.1)) =
      nodes.filter fun node => wanted (registry.isOpen node.session && responds node) := by
  rw [checks, List.map_map, List.filter_map, List.map_map]
  exact List.map_id _

theorem verdicts_eq (nodes : List Node) :
    registry.verdicts answers nodes = nodes.map fun node => (node, registry.isAlive answers node) := by
  rw [verdicts, checks, List.map_map]
  rfl

theorem list_nodes : (registry.list answers).1 = registry.alive answers :=
  registry.map_filter_checks registry.table.nodes (fun node => answers node.probeAddress) id

/-- Whatever the order in which the nodes of the table are checked, those that are not alive are retired in it. -/
theorem retires_of_perm {entries : List Node} (perm : entries.Perm registry.table.nodes) :
    Retires registry (entries.filter (!registry.isAlive answers ·))
      (registry.settle (registry.verdicts answers entries)).2 := by
  have evicted : (registry.settle (registry.verdicts answers entries)).2 =
      (entries.filter (!registry.isAlive answers ·)).foldl evict registry :=
    congrArg (List.foldl evict registry)
      (registry.map_filter_checks entries (fun node => answers node.probeAddress) (!·))
  have distinct := (perm.pairwise_iff Ne.symm).mpr registry.table.nodes_ascending.distinct
  rw [evicted]
  refine retires_foldl (fun _ _ => evict_eq_retire) (distinct.filter _) fun node member => ?_
  exact find?_eq_some_iff.mpr ⟨perm.mem_iff.mp (List.mem_filter.mp member).1, rfl⟩

theorem list_retires : Retires registry (registry.dead answers) (registry.list answers).2 :=
  registry.retires_of_perm answers (.refl _)

theorem list_table : (registry.list answers).2.table.nodes = registry.alive answers := by
  rw [(registry.list_retires answers).nodes_eq_filter, alive]
  refine List.filter_congr fun node member => ?_
  simp [dead, member]

theorem list_history :
    (registry.list answers).2.history.entries =
      (registry.history.entries ++ (registry.dead answers).map Node.retirement).drop
        (registry.history.entries.length + (registry.dead answers).length - History.capacity) := by
  rw [(registry.list_retires answers).history, History.entries_foldl_push, List.length_map]

theorem alive_ascending : Node.Ascending (registry.alive answers) :=
  registry.table.ascending.filter _

end PortMapper.Registry
