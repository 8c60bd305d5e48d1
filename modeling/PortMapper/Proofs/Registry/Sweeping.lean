import Mathlib.Data.List.Nodup
import PortMapper.Proofs.Registry.Holding
import PortMapper.Proofs.Registry.Listing
import PortMapper.Proofs.Text.Order

/-!
# A listing leaves what it returns

A listing that nothing interferes with asks each open node once, returns the ones that are alive in the order of their
names, and retires all others (`Swept`). If no two nodes share a session, closing the sessions of the others leaves
those of the returned nodes open, so a second listing finds the same and has nothing to do (`list_list`). None of this
depends on the order in which the table gives its nodes (`settle_of_perm`).
-/

namespace PortMapper

namespace Node

/-- The order in which a listing is sorted: a node goes before another one if its name is no higher. -/
def byName (node other : Node) : Bool :=
  !decide (other.name < node.name)

theorem byName_iff {node other : Node} : byName node other = true ↔ ¬ other.name < node.name := by
  rw [byName, Bool.not_eq_true', decide_eq_false_iff_not]

/-- Nodes that are sorted by their names, no two of which are the same, ascend. -/
theorem Ascending.of_sorted {nodes : List Node} (sorted : nodes.Pairwise fun node other => byName node other = true)
    (distinct : nodes.Pairwise fun node other => node.name ≠ other.name) : Ascending nodes := by
  refine (sorted.and distinct).imp fun {node other} order => ?_
  by_contra notLower
  exact order.2 (NodeTable.eq_of_not_lt notLower (byName_iff.mp order.1))

theorem sorted_mergeSort (nodes : List Node) :
    (nodes.mergeSort byName).Pairwise fun node other => byName node other = true := by
  refine List.pairwise_mergeSort ?_ ?_ nodes
  · intro first second third lower higher
    rw [byName_iff] at lower higher ⊢
    exact List.le_trans lower higher
  · intro first second
    rw [Bool.or_eq_true, byName_iff, byName_iff]
    exact List.le_total first.name second.name

end Node

namespace Registry

variable (registry : Registry) (answers : SocketAddress → Bool)

/-- The nodes that a listing asks to answer. -/
def asked : List Node :=
  ((registry.checks registry.snapshot).filter (·.asked)).map (·.node)

/-- How a listing went that nothing interfered with: what it returned, and the registry that it left. -/
structure Swept (returned : List Node) (rest : Registry) : Prop where
  /-- The nodes whose sessions are open and whose addresses answer are returned. -/
  mem_returned : ∀ node, node ∈ returned ↔ node ∈ registry.table.nodes ∧
    registry.isOpen node.session = true ∧ answers node.probeAddress = true
  ascending : Node.Ascending returned
  /-- The order of the names is that of their bytes in UTF-8. -/
  ascending_utf8 : (returned.map (Text.Utf8.encode ·.name)).Pairwise (· < ·)
  /-- The order of names that came as Latin-1 is that of the bytes that came. -/
  ascending_latin1 : ∀ came : Node → Bytes, (∀ node ∈ returned, node.name = Text.Latin1.decode (came node)) →
    (returned.map came).Pairwise (· < ·)
  /-- Each node is asked once if its session is open, and else never. -/
  asks : registry.asked ⊆ registry.table.nodes ∧ ∀ node ∈ registry.table.nodes,
    registry.asked.count node = if registry.isOpen node.session then 1 else 0
  /-- What would have answered but was not asked does not count. -/
  asks_no_others : ∀ others : SocketAddress → Bool,
    (∀ node ∈ registry.asked, others node.probeAddress = answers node.probeAddress) →
      registry.list others = (returned, rest)
  left : rest.table.nodes = returned
  keeps_open : ∀ node ∈ returned, rest.isOpen node.session = true
  closes : ∀ node ∈ registry.table.nodes, node ∉ returned → rest.isOpen node.session = false
  /-- Each node that is not returned is put into the history once. -/
  retires : ∃ gone, (returned ++ gone).Perm registry.table.nodes ∧
    rest.history = (gone.map Node.retirement).foldl History.push registry.history
  /-- A second listing returns the same and changes nothing. -/
  again : rest.list answers = (returned, rest)
  /-- In whatever order the table gives its nodes to be checked, the ones found alive are the same when sorted by
  their names, and the registry that is left is the same but for the order of the latest entries of its history. -/
  in_any_order : ∀ entries live after, entries.Perm registry.table.nodes →
    registry.settle (registry.verdicts answers entries) = (live, after) →
      live.mergeSort Node.byName = returned ∧ after.table.nodes = returned ∧
        after.counter = rest.counter ∧ (∀ session, after.isOpen session = rest.isOpen session) ∧
        ∃ gone, (returned ++ gone).Perm registry.table.nodes ∧
          after.history = (gone.map Node.retirement).foldl History.push registry.history

/-! ## Who is asked -/

theorem asked_eq : registry.asked = registry.table.nodes.filter (registry.isOpen ·.session) := by
  rw [asked, checks, List.filter_map, List.map_map]
  exact List.map_id _

theorem count_asked {node : Node} (registered : node ∈ registry.table.nodes) :
    registry.asked.count node = if registry.isOpen node.session then 1 else 0 := by
  rw [asked_eq]
  split
  · next isOpen =>
    exact List.count_eq_one_of_mem (registry.table.nodup.filter _) (List.mem_filter.mpr ⟨registered, isOpen⟩)
  · next closed => exact List.count_eq_zero.mpr fun member => closed (List.mem_filter.mp member).2

theorem list_congr {others : SocketAddress → Bool}
    (same : ∀ node ∈ registry.asked, others node.probeAddress = answers node.probeAddress) :
    registry.list others = registry.list answers := by
  have verdicts : registry.verdicts others registry.snapshot = registry.verdicts answers registry.snapshot := by
    rw [verdicts_eq, verdicts_eq]
    refine List.map_congr_left fun node registered => ?_
    cases isOpen : registry.isOpen node.session with
    | false => simp only [isAlive, isOpen, Bool.false_and]
    | true =>
      have agree := same node (registry.asked_eq ▸ List.mem_filter.mpr ⟨registered, isOpen⟩)
      simp only [isAlive, agree]
  rw [list, list, verdicts]

/-! ## Who is returned -/

theorem mem_alive {node : Node} : node ∈ registry.alive answers ↔
    node ∈ registry.table.nodes ∧ registry.isOpen node.session = true ∧ answers node.probeAddress = true := by
  rw [alive, List.mem_filter, isAlive, Bool.and_eq_true]

theorem not_mem_alive {node : Node} (registered : node ∈ registry.table.nodes) :
    node ∉ registry.alive answers ↔ node ∈ registry.dead answers := by
  simp only [alive, dead, List.mem_filter, registered, true_and, Bool.not_eq_true, Bool.not_eq_true']

theorem alive_append_dead : (registry.alive answers ++ registry.dead answers).Perm registry.table.nodes :=
  List.filter_append_perm _ _

/-! ## Sessions after a listing -/

theorem isOpen_of_alive (distinct : (registry.table.nodes.map (·.session.id)).Nodup) {node : Node}
    (alive : node ∈ registry.alive answers) : (registry.list answers).2.isOpen node.session = true := by
  obtain ⟨registered, isOpen, _⟩ := (registry.mem_alive answers).mp alive
  rw [isOpen_iff, (registry.list_retires answers).mem_closed, not_or]
  refine ⟨isOpen_iff.mp isOpen, ?_⟩
  rintro ⟨other, dead, own⟩
  have same := List.inj_on_of_nodup_map distinct (List.mem_filter.mp dead).1 registered own
  subst same
  exact (registry.not_mem_alive answers registered).mpr dead alive

theorem isOpen_of_dead {node : Node} (dead : node ∈ registry.dead answers) :
    (registry.list answers).2.isOpen node.session = false := by
  rw [Bool.eq_false_iff]
  intro isOpen
  exact (isOpen_of_retires (registry.list_retires answers) isOpen).2 dead

/-- A registry in which all nodes are alive is left as it is. -/
theorem list_of_alive (alive : ∀ node ∈ registry.table.nodes, registry.isAlive answers node = true) :
    registry.list answers = (registry.table.nodes, registry) := by
  have live : registry.alive answers = registry.table.nodes := List.filter_eq_self.mpr alive
  refine Prod.ext ((registry.list_nodes answers).trans live) (settle_of_alive fun verdict member => ?_)
  rw [verdicts_eq] at member
  obtain ⟨node, registered, rfl⟩ := List.mem_map.mp member
  exact alive node registered

theorem list_list (distinct : (registry.table.nodes.map (·.session.id)).Nodup) :
    (registry.list answers).2.list answers = registry.list answers := by
  rw [list_of_alive, list_table, ← list_nodes]
  intro node left
  rw [list_table] at left
  rw [isAlive, registry.isOpen_of_alive answers distinct left, ((registry.mem_alive answers).mp left).2.2]
  rfl

/-! ## The order of the entries -/

theorem isOpen_congr {first second : Registry} (same : ∀ id, id ∈ first.closed ↔ id ∈ second.closed)
    (session : Session) : first.isOpen session = second.isOpen session := by
  rw [Bool.eq_iff_iff, isOpen_iff, isOpen_iff, same]

/-- Nodes that are retired in another order leave the same registry but for the order of the history. -/
theorem Retires.of_perm {nodes others : List Node} {after final : Registry} (retires : Retires registry nodes after)
    (again : Retires registry others final) (perm : nodes.Perm others) :
    after.table.nodes = final.table.nodes ∧ after.counter = final.counter ∧
      ∀ session, after.isOpen session = final.isOpen session := by
  refine ⟨?_, retires.counter.trans again.counter.symm, isOpen_congr fun id => ?_⟩
  · rw [retires.nodes_eq_filter, again.nodes_eq_filter]
    exact List.filter_congr fun node _ => decide_eq_decide.mpr (not_congr perm.mem_iff)
  · rw [retires.mem_closed, again.mem_closed]
    exact or_congr_right (exists_congr fun node => and_congr_left fun _ => perm.mem_iff)

theorem sort_of_perm {entries : List Node} (perm : entries.Perm registry.table.nodes) :
    (entries.filter (registry.isAlive answers)).mergeSort Node.byName =
      registry.alive answers := by
  have same := (List.mergeSort_perm (entries.filter (registry.isAlive answers)) Node.byName).trans (perm.filter _)
  have distinct := (same.pairwise_iff Ne.symm).mpr (registry.alive_ascending answers).distinct
  refine Node.Ascending.ext (.of_sorted (Node.sorted_mergeSort _) distinct) (registry.alive_ascending answers) ?_
  exact fun node => same.mem_iff

theorem live_settle (entries : List Node) :
    (registry.settle (registry.verdicts answers entries)).1 = entries.filter (registry.isAlive answers) :=
  registry.map_filter_checks entries (fun node => answers node.probeAddress) id

/-- The order in which the table gives its nodes matters only to the latest entries of the history. -/
theorem settle_of_perm {entries live : List Node} {after : Registry} (perm : entries.Perm registry.table.nodes)
    (settled : registry.settle (registry.verdicts answers entries) = (live, after)) :
    live.mergeSort Node.byName = registry.alive answers ∧
      after.table.nodes = registry.alive answers ∧ after.counter = (registry.list answers).2.counter ∧
      (∀ session, after.isOpen session = (registry.list answers).2.isOpen session) ∧
      ∃ gone, (registry.alive answers ++ gone).Perm registry.table.nodes ∧
        after.history = (gone.map Node.retirement).foldl History.push registry.history := by
  have found : live = entries.filter (registry.isAlive answers) :=
    (congrArg Prod.fst settled).symm.trans (registry.live_settle answers entries)
  have retires : Retires registry (entries.filter (!registry.isAlive answers ·)) after := by
    have all := registry.retires_of_perm answers perm
    rwa [settled] at all
  obtain ⟨nodes, counter, sessions⟩ := retires.of_perm registry (registry.list_retires answers) (perm.filter _)
  refine ⟨?_, nodes.trans (registry.list_table answers), counter, sessions, _, ?_, retires.history⟩
  · rw [found]
    exact registry.sort_of_perm answers perm
  · exact ((perm.filter _).append_left _).trans (registry.alive_append_dead answers)

/-! ## Listing and evicting agree -/

/-- A listing of nodes no two of which share a session, with nothing else happening meanwhile, returns the nodes that
are alive in the order of their names, and leaves a registry of just these: all others were closed and retired once,
and a second listing finds the same and changes nothing. -/
theorem listing_leaves_what_it_returns {registry : Registry} {answers : SocketAddress → Bool}
    (distinct : (registry.table.nodes.map (·.session.id)).Nodup) :
    registry.Swept answers (registry.list answers).1 (registry.list answers).2 := by
  have ascending := registry.alive_ascending answers
  rw [list_nodes]
  exact {
    mem_returned := fun node => registry.mem_alive answers
    ascending
    ascending_utf8 := List.pairwise_map.mpr (ascending.imp Text.Utf8.encode_lt_encode)
    ascending_latin1 := fun came named => by
      refine List.pairwise_map.mpr (ascending.imp_of_mem fun {node other} first second lower => ?_)
      rw [named node first, named other second] at lower
      exact Text.Latin1.decode_lt_decode_iff.mp lower
    asks := ⟨fun node asked => by
      rw [asked_eq] at asked
      exact (List.mem_filter.mp asked).1, fun node => registry.count_asked⟩
    asks_no_others := fun others same => by
      rw [registry.list_congr answers same, ← list_nodes]
    left := registry.list_table answers
    keeps_open := fun node => registry.isOpen_of_alive answers distinct
    closes := fun node registered gone =>
      registry.isOpen_of_dead answers ((registry.not_mem_alive answers registered).mp gone)
    retires := ⟨_, registry.alive_append_dead answers, (registry.list_retires answers).history⟩
    again := by rw [registry.list_list answers distinct, ← list_nodes]
    in_any_order := fun entries live after => registry.settle_of_perm answers }

/-- Four nodes register out of order, and the session of one of them closes. -/
def gathered : List RegistryEvent :=
  [.openSession ⟨.loopback, 40000, 0⟩, .openSession ⟨.loopback, 40001, 0⟩, .openSession ⟨.loopback, 40002, 0⟩,
    .openSession ⟨.loopback, 40003, 0⟩, .register { port := 3, name := ['c'] } 1,
    .register { port := 4, name := ['d'] } 2, .register { port := 1, name := ['a'] } 3,
    .register { port := 2, name := ['b'] } 4, .closeSession 4]

/-- Of four nodes one is closed and one does not answer; the other two are listed in order, now and again, and the two
that are gone are in the history. -/
theorem listing_leaves_what_it_returns_of_gathered :
    ∃ activity : Activity, (Activity.start 1).run gathered = some activity ∧
      ∃ returned rest, activity.registry.list (·.port ≠ 4) = (returned, rest) ∧
        returned.map (·.name) = [['a'], ['c']] ∧ rest.table.nodes = returned ∧
        rest.history.entries.map (·.name) = [['b'], ['d']] ∧ rest.list (·.port ≠ 4) = (returned, rest) := by
  let activity := ((Activity.start 1).run gathered).get (by decide)
  have run : (Activity.start 1).run gathered = some activity := (Option.some_get _).symm
  have swept : activity.registry.Swept (·.port ≠ 4) _ _ := listing_leaves_what_it_returns (by decide)
  have named : (activity.registry.list (·.port ≠ 4)).1.map (·.name) = [['a'], ['c']] := by decide
  have recorded : (activity.registry.list (·.port ≠ 4)).2.history.entries.map (·.name) = [['b'], ['d']] := by decide
  clear_value activity
  exact ⟨activity, run, _, _, rfl, named, swept.left, recorded, swept.again⟩

end Registry

end PortMapper
