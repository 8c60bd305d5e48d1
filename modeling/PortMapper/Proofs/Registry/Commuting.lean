import PortMapper.Proofs.Registry.History
import PortMapper.Proofs.Registry.Holding
import PortMapper.Registry.Operation

/-!
# Operations on different names

An operation on a name keeps the registry, retires the node that it acts on, or accepts a new one (`Effect`), and which
of these it does depends on that node and its session alone (`NameOperation.perform_eq`). So it does the same before and
after an operation on another name that does not close this session (`NameOperation.perform_after`), and two effects on
different names differ with their order only in the numbers that they draw and in the order of the history
(`NameOperation.operations_on_different_names_commute`).
-/

namespace PortMapper

/-- The node with a certain number, if it is under one of two names. -/
def Node.numbered (name : Text) (number : UInt16) (name' : Text) (number' : UInt16) (node : Node) : Node :=
  if node.name = name then { node with creation := number }
  else if node.name = name' then { node with creation := number' }
  else node

theorem Node.name_numbered (name : Text) (number : UInt16) (name' : Text) (number' : UInt16) (node : Node) :
    (node.numbered name number name' number').name = node.name := by
  unfold numbered
  split
  · rfl
  · split <;> rfl

/-! ## Effects -/

/-- What an operation on a name does to a registry. -/
inductive Effect
  | keep
  | retire (node : Node)
  | accept (stale : Option Node) (description : NodeDescription) (session : Session)

namespace Effect

variable {registry : Registry} {effect other : Effect} {name : Text}

def apply (registry : Registry) : Effect → Registry
  | keep => registry
  | retire node => registry.retire node
  | accept stale description session => (registry.accept stale description session).2

/-- An effect is on a name if it touches no other one. -/
def On (name : Text) : Effect → Prop
  | keep => True
  | retire node => node.name = name
  | accept _ description _ => description.name = name

/-- The node under the name afterwards, given the number that comes next and the node that was there. -/
def entry (number : UInt16) (before : Option Node) : Effect → Option Node
  | keep => before
  | retire _ => none
  | accept _ description session => some ⟨description, number, session⟩

/-- The nodes that go into the history. -/
def leavers : Effect → List Node
  | keep => []
  | retire node => [node]
  | accept stale _ _ => stale.toList

/-- The node whose session is closed. -/
def evicted : Effect → Option Node
  | retire node => some node
  | keep | accept .. => none

/-- Whether a creation number is drawn. -/
def draws : Effect → Bool
  | accept .. => true
  | keep | retire _ => false

theorem find?_apply (on : effect.On name) (asked : Text) : (effect.apply registry).find? asked =
    if asked = name then effect.entry registry.counter.draw.1 (registry.find? name) else registry.find? asked := by
  split
  · next same =>
    subst same
    cases effect with
    | keep => rfl
    | retire node =>
      cases on
      exact NodeTable.find?_erase_self _ _
    | accept stale description session =>
      cases on
      exact registry.find?_accept_self stale description session
  · next differs =>
    cases effect with
    | keep => rfl
    | retire node =>
      cases on
      exact NodeTable.find?_erase_of_ne differs
    | accept stale description session =>
      cases on
      exact Registry.find?_accept_of_ne differs

theorem history_apply : (effect.apply registry).history =
    (effect.leavers.map Node.retirement).foldl History.push registry.history := by
  cases effect with
  | keep | retire node => rfl
  | accept stale description session => exact registry.history_accept stale description session

theorem mem_closed_apply {id : UInt64} : id ∈ (effect.apply registry).closed ↔
    id ∈ registry.closed ∨ ∃ node ∈ effect.evicted, node.session.id = id := by
  cases effect with
  | keep | accept stale description session => simp [apply, evicted, Registry.accept]
  | retire node => simp [apply, evicted, Registry.retire, ClosedSessions.mem_close, or_comm, eq_comm]

theorem counter_apply : (effect.apply registry).counter =
    if effect.draws then registry.counter.draw.2 else registry.counter := by
  cases effect <;> rfl

theorem length_leavers_le (effect : Effect) : effect.leavers.length ≤ 1 := by
  rcases effect with _ | node | ⟨_ | node, description, session⟩ <;> simp [leavers]

theorem exists_entry_of_draws (on : effect.On name) (draws : effect.draws = true) : ∃ node : Node,
    node.name = name ∧ ∀ number before, effect.entry number before = some { node with creation := number } := by
  cases effect with
  | keep | retire node => cases draws
  | accept stale description session => exact ⟨⟨description, 0, session⟩, on, fun _ _ => rfl⟩

theorem entry_of_not_draws (draws : effect.draws = false) (number old : UInt16) (before : Option Node) :
    effect.entry number before = effect.entry old before := by
  cases effect with
  | keep | retire node => rfl
  | accept stale description session => cases draws

theorem counter_apply_of_draws (draws : effect.draws = true) :
    (effect.apply registry).counter = registry.counter.draw.2 := by
  rw [counter_apply, if_pos draws]

theorem counter_apply_of_not_draws (draws : effect.draws = false) :
    (effect.apply registry).counter = registry.counter := by
  rw [counter_apply, if_neg (Bool.eq_false_iff.mp draws)]

/-! ## One effect after another -/

theorem counter_comm (registry : Registry) (effect other : Effect) :
    (other.apply (effect.apply registry)).counter = (effect.apply (other.apply registry)).counter := by
  simp only [counter_apply]
  cases effect.draws <;> cases other.draws <;> rfl

theorem isOpen_comm (registry : Registry) (effect other : Effect) (session : Session) :
    (other.apply (effect.apply registry)).isOpen session = (effect.apply (other.apply registry)).isOpen session := by
  rw [Bool.eq_iff_iff, Registry.isOpen_iff, Registry.isOpen_iff]
  simp only [mem_closed_apply, or_right_comm]

/-- The history ends with the nodes that went, in the order in which they did. -/
theorem history_apply_apply (registry : Registry) (effect other : Effect) :
    (other.apply (effect.apply registry)).history.entries =
      registry.history.entries.drop
          (registry.history.entries.length + (effect.leavers.length + other.leavers.length) - History.capacity) ++
        (effect.leavers ++ other.leavers).map Node.retirement := by
  have few := effect.length_leavers_le
  have few' := other.length_leavers_le
  rw [history_apply, history_apply, ← List.foldl_append, ← List.map_append, History.entries_foldl_push,
    List.length_map, List.length_append, List.drop_append_of_le_length]
  rw [History.capacity]
  omega

theorem history_comm (registry : Registry) (effect other : Effect) : ∃ older newest newest',
    (other.apply (effect.apply registry)).history.entries = older ++ newest ∧
      (effect.apply (other.apply registry)).history.entries = older ++ newest' ∧
      newest'.Perm newest ∧ newest.length ≤ 2 := by
  have few := effect.length_leavers_le
  have few' := other.length_leavers_le
  have back := history_apply_apply registry other effect
  rw [Nat.add_comm other.leavers.length] at back
  refine ⟨_, _, _, history_apply_apply registry effect other, back, List.perm_append_comm.map _, ?_⟩
  rw [List.length_map, List.length_append]
  omega

/-- If a number is drawn, then by one of the two only. -/
def Quiet (effect other : Effect) : Prop :=
  effect.draws = false ∨ other.draws = false

/-- A number that only one of the two draws is the same whether or not the other one came first. -/
theorem Quiet.entry_eq (quiet : Quiet effect other) (registry : Registry) (before : Option Node) :
    effect.entry (other.apply registry).counter.draw.1 before = effect.entry registry.counter.draw.1 before := by
  rcases quiet with draws | draws
  · exact entry_of_not_draws draws _ _ before
  · rw [counter_apply_of_not_draws draws]

section Names

variable {name' : Text} (on : effect.On name) (on' : other.On name') (differ : name ≠ name')

include on on' differ

theorem find?_apply_apply (registry : Registry) (asked : Text) :
    (other.apply (effect.apply registry)).find? asked =
      if asked = name then effect.entry registry.counter.draw.1 (registry.find? name)
      else if asked = name' then other.entry (effect.apply registry).counter.draw.1 (registry.find? name')
      else registry.find? asked := by
  rw [find?_apply on', find?_apply on, find?_apply on, if_neg differ.symm]
  by_cases same : asked = name
  · rw [if_pos same, if_pos same, if_neg fun same' => differ (same.symm.trans same')]
  · rw [if_neg same, if_neg same]

/-- The other order changes the nodes under the two names as it changes the entries that the effects make there. -/
theorem nodes_eq_map_of_entries {change : Node → Node} (named : ∀ node, (change node).name = node.name)
    (own : effect.entry (other.apply registry).counter.draw.1 (registry.find? name) =
      (effect.entry registry.counter.draw.1 (registry.find? name)).map change)
    (own' : other.entry registry.counter.draw.1 (registry.find? name') =
      (other.entry (effect.apply registry).counter.draw.1 (registry.find? name')).map change)
    (rest : ∀ asked, asked ≠ name → asked ≠ name' → (registry.find? asked).map change = registry.find? asked) :
    (effect.apply (other.apply registry)).table.nodes =
      (other.apply (effect.apply registry)).table.nodes.map change := by
  refine NodeTable.nodes_eq_map named fun asked => ?_
  show (effect.apply (other.apply registry)).find? asked = ((other.apply (effect.apply registry)).find? asked).map change
  rw [find?_apply_apply on' on differ.symm, find?_apply_apply on on' differ]
  by_cases same : asked = name
  · subst same
    rw [if_neg differ, if_pos rfl, if_pos rfl]
    exact own
  · by_cases same' : asked = name'
    · subst same'
      rw [if_pos rfl, if_neg same, if_pos rfl]
      exact own'
    · rw [if_neg same', if_neg same, if_neg same, if_neg same']
      exact (rest asked same same').symm

theorem nodes_comm (quiet : Quiet effect other) (registry : Registry) :
    (effect.apply (other.apply registry)).table.nodes = (other.apply (effect.apply registry)).table.nodes := by
  rw [← List.map_id (other.apply (effect.apply registry)).table.nodes]
  refine nodes_eq_map_of_entries on on' differ (fun _ => rfl) ?_ ?_ fun _ _ _ => congrFun Option.map_id _
  · rw [quiet.entry_eq, Option.map_id]
    rfl
  · rw [Quiet.entry_eq quiet.symm, Option.map_id]
    rfl

/-- Two nodes that come have each other's numbers if they come in the other order. -/
theorem nodes_exchange (draws : effect.draws = true) (draws' : other.draws = true) (registry : Registry) :
    (effect.apply (other.apply registry)).table.nodes = (other.apply (effect.apply registry)).table.nodes.map
      (Node.numbered name registry.counter.draw.2.draw.1 name' registry.counter.draw.1) := by
  obtain ⟨node, named, entry⟩ := exists_entry_of_draws on draws
  obtain ⟨node', named', entry'⟩ := exists_entry_of_draws on' draws'
  refine nodes_eq_map_of_entries on on' differ (Node.name_numbered _ _ _ _) ?_ ?_ fun asked differs differs' => ?_
  · rw [counter_apply_of_draws draws', entry, entry, Option.map_some]
    exact congrArg some (if_pos named).symm
  · have apart : node'.name ≠ name := named' ▸ differ.symm
    rw [counter_apply_of_draws draws, entry', entry', Option.map_some]
    exact congrArg some ((if_neg apart).trans (if_pos named')).symm
  · refine (Option.map_congr fun found member => ?_).trans (congrFun Option.map_id _)
    have own := (Registry.find?_eq_some_iff.mp member).2
    rw [Node.numbered, own, if_neg differs, if_neg differs']
    rfl

end Names

end Effect

namespace NameOperation

variable {registry : Registry} {answers : SocketAddress → Bool} {operation first second : NameOperation}
  {earlier : Effect} {name : Text}

/-- The node that an operation acts on, and whether its session is open. -/
def seen (registry : Registry) (operation : NameOperation) : Option (Node × Bool) :=
  (operation.actsOn registry).map fun node => (node, registry.isOpen node.session)

/-- What an operation does, given what it sees. -/
def effect (answers : SocketAddress → Bool) (seen : Option (Node × Bool)) : NameOperation → Effect
  | register description session =>
    match seen with
    | some (_, true) => .keep
    | some (stale, false) => .accept (some stale) description session
    | none => .accept none description session
  | lookup _ =>
    match seen with
    | some (node, isOpen) => if isOpen && answers node.probeAddress then .keep else .retire node
    | none => .keep
  | remove _ | removeSession _ _ =>
    match seen with
    | some (node, _) => .retire node
    | none => .keep

/-- What comes of an operation, given what it sees and the number that comes next. -/
def result (answers : SocketAddress → Bool) (number : UInt16) (seen : Option (Node × Bool)) :
    NameOperation → OperationResult
  | register _ _ =>
    match seen with
    | some (_, true) => .registration .conflict
    | some (_, false) | none => .registration (.registered number)
  | lookup _ => .node ((seen.filter fun (node, isOpen) => isOpen && answers node.probeAddress).map (·.1))
  | remove _ | removeSession _ _ => .node (seen.map (·.1))

/-! ## What an operation depends on -/

theorem perform_eq (answers : SocketAddress → Bool) (registry : Registry) (operation : NameOperation) :
    operation.perform answers registry =
      (operation.result answers registry.counter.draw.1 (operation.seen registry),
        (operation.effect answers (operation.seen registry)).apply registry) := by
  cases operation with
  | register description session =>
    simp only [perform, seen, actsOn]
    cases found : registry.find? description.name with
    | none =>
      simp only [Registry.register, found]
      rfl
    | some holder =>
      cases isOpen : registry.isOpen holder.session <;>
        simp only [Registry.register, found, Option.map_some, isOpen] <;> rfl
  | lookup name =>
    simp only [perform, seen, actsOn, Registry.lookup]
    cases found : registry.find? name with
    | none => rfl
    | some node =>
      have named := (Registry.find?_eq_some_iff.mp found).2
      cases alive : registry.isOpen node.session && answers node.probeAddress with
      | true => simp [Registry.settle, Registry.verdicts, Registry.checks, Check.verdict, Option.filter_some, alive,
          result, effect, Effect.apply]
      | false =>
        have evicted : registry.evict node = registry.retire node := Registry.evict_eq_retire (named.symm ▸ found)
        simp [Registry.settle, Registry.verdicts, Registry.checks, Check.verdict, Option.filter_some, alive, evicted,
          result, effect, Effect.apply]
  | remove name =>
    simp only [perform, seen, actsOn, Registry.remove]
    cases registry.find? name <;> rfl
  | removeSession name session =>
    simp only [perform, seen, actsOn, Registry.removeSession]
    cases registry.find? name with
    | none => rfl
    | some node =>
      by_cases owned : node.session.id = session <;> simp [owned, Option.filter_some, result, effect, Effect.apply]

theorem name_of_mem_actsOn {node : Node} (acted : node ∈ operation.actsOn registry) : node.name = operation.name := by
  cases operation with
  | register description session => exact (Registry.find?_eq_some_iff.mp acted).2
  | lookup name | remove name => exact (Registry.find?_eq_some_iff.mp acted).2
  | removeSession name session =>
    exact (Registry.find?_eq_some_iff.mp (Option.filter_eq_some_iff.mp acted).1).2

/-- An operation keeps the registry, retires the node that it acts on, or puts a new one in its place. -/
theorem effect_cases (answers : SocketAddress → Bool) (registry : Registry) (operation : NameOperation) :
    operation.effect answers (operation.seen registry) = .keep ∨
      (∃ node ∈ operation.actsOn registry, operation.effect answers (operation.seen registry) = .retire node) ∨
      ∃ description session, operation = .register description session ∧
        operation.effect answers (operation.seen registry) =
          .accept (operation.actsOn registry) description session := by
  unfold seen
  cases acted : operation.actsOn registry with
  | none =>
    cases operation with
    | register description session => exact .inr (.inr ⟨description, session, rfl, rfl⟩)
    | lookup name | remove name | removeSession name session => exact .inl rfl
  | some node =>
    rw [Option.map_some]
    cases operation with
    | register description session =>
      cases registry.isOpen node.session with
      | true => exact .inl rfl
      | false => exact .inr (.inr ⟨description, session, rfl, rfl⟩)
    | lookup name =>
      rw [effect]
      split
      · exact .inl rfl
      · exact .inr (.inl ⟨node, rfl, rfl⟩)
    | remove name | removeSession name session => exact .inr (.inl ⟨node, rfl, rfl⟩)

theorem on_effect (answers : SocketAddress → Bool) (registry : Registry) (operation : NameOperation) :
    (operation.effect answers (operation.seen registry)).On operation.name := by
  rcases effect_cases answers registry operation with kept | ⟨node, acted, retired⟩ | ⟨_, _, rfl, accepted⟩
  · rw [kept]
    trivial
  · rw [retired]
    exact name_of_mem_actsOn acted
  · rw [accepted]
    rfl

/-- An operation closes no session but that of the node that it acts on. -/
theorem mem_actsOn_of_evicted {node : Node}
    (evicted : node ∈ (operation.effect answers (operation.seen registry)).evicted) :
    node ∈ operation.actsOn registry := by
  rcases effect_cases answers registry operation with kept | ⟨other, acted, retired⟩ | ⟨_, _, _, accepted⟩
  · rw [kept] at evicted
    cases evicted
  · rw [retired] at evicted
    cases evicted
    exact acted
  · rw [accepted] at evicted
    cases evicted

/-- Only a registration that is accepted depends on the number that comes next, which it gets. -/
theorem result_of_draws {seen : Option (Node × Bool)} (draws : (operation.effect answers seen).draws = true)
    (number : UInt16) : operation.result answers number seen = .registration (.registered number) := by
  cases operation with
  | register description session =>
    rcases seen with _ | ⟨node, _ | _⟩
    · rfl
    · rfl
    · cases draws
  | lookup name =>
    rcases seen with _ | ⟨node, isOpen⟩
    · cases draws
    · rw [effect] at draws
      split at draws <;> cases draws
  | remove name | removeSession name session => rcases seen with _ | _ <;> cases draws

theorem result_of_not_draws {seen : Option (Node × Bool)} (draws : (operation.effect answers seen).draws = false)
    (number other : UInt16) : operation.result answers number seen = operation.result answers other seen := by
  cases operation with
  | register description session =>
    rcases seen with _ | ⟨node, _ | _⟩
    · cases draws
    · cases draws
    · rfl
  | lookup name | remove name | removeSession name session => rfl

/-! ## Operations that are apart -/

/-- Two operations are apart if they concern different names and act on nodes of different sessions, if on any. -/
structure Apart (registry : Registry) (first second : NameOperation) : Prop where
  names : first.name ≠ second.name
  sessions : ∀ node ∈ first.actsOn registry, ∀ other ∈ second.actsOn registry, node.session.id ≠ other.session.id

theorem Apart.symm (apart : Apart registry first second) : Apart registry second first :=
  ⟨apart.names.symm, fun node acted other acted' same => apart.sessions other acted' node acted same.symm⟩

theorem actsOn_apply (on : earlier.On name) (differs : operation.name ≠ name) :
    operation.actsOn (earlier.apply registry) = operation.actsOn registry := by
  have same : (earlier.apply registry).find? operation.name = registry.find? operation.name := by
    rw [earlier.find?_apply on, if_neg differs]
  cases operation with
  | register description session => exact same
  | lookup name | remove name => exact same
  | removeSession name session => exact congrArg (Option.filter _) same

/-- An operation sees the same after an effect on another name, unless that closes the session of the node that it acts
on. -/
theorem seen_apply (on : earlier.On name) (differs : operation.name ≠ name)
    (spared : ∀ node ∈ operation.actsOn registry, ∀ gone ∈ earlier.evicted, gone.session.id ≠ node.session.id) :
    operation.seen (earlier.apply registry) = operation.seen registry := by
  unfold seen
  rw [actsOn_apply on differs]
  refine Option.map_congr fun node acted => congrArg (node, ·) ?_
  rw [Bool.eq_iff_iff, Registry.isOpen_iff, Registry.isOpen_iff, Effect.mem_closed_apply, not_or]
  refine and_iff_left ?_
  rintro ⟨gone, evicted, own⟩
  exact spared node acted gone evicted own

/-- After another operation from which it is apart, an operation does the same, but for the number that it may draw. -/
theorem perform_after (apart : Apart registry first second) :
    second.perform answers (first.perform answers registry).2 =
      (second.result answers
          ((first.effect answers (first.seen registry)).apply registry).counter.draw.1 (second.seen registry),
        (second.effect answers (second.seen registry)).apply
          ((first.effect answers (first.seen registry)).apply registry)) := by
  have same : second.seen ((first.effect answers (first.seen registry)).apply registry) = second.seen registry :=
    seen_apply (on_effect answers registry first) apart.names.symm
      fun node acted gone evicted => apart.sessions gone (mem_actsOn_of_evicted evicted) node acted
  rw [perform_eq answers registry first, perform_eq, same]

/-- A number that only one of two operations draws is the same whether or not the other one came first. -/
theorem result_apply (quiet : Effect.Quiet (operation.effect answers (operation.seen registry)) earlier) :
    operation.result answers (earlier.apply registry).counter.draw.1 (operation.seen registry) =
      operation.result answers registry.counter.draw.1 (operation.seen registry) := by
  rcases quiet with draws | draws
  · exact result_of_not_draws draws _ _
  · rw [Effect.counter_apply_of_not_draws draws]

/-- Two operations that concern different names and act on nodes of different sessions may be exchanged. If both
register a node, they draw each other's creation numbers, in their results and in the table; otherwise the results and
the table are the same in either order. The sessions and the counter are the same, and so is the history but for the
order of its last entries, one for each of the two operations at most, whether or not the history is full. -/
theorem operations_on_different_names_commute (answers : SocketAddress → Bool) (apart : Apart registry first second) :
    let one := first.perform answers registry
    let two := second.perform answers one.2
    let two' := second.perform answers registry
    let one' := first.perform answers two'.2
    ((∃ number next, one.1 = .registration (.registered number) ∧ two.1 = .registration (.registered next) ∧
        two'.1 = .registration (.registered number) ∧ one'.1 = .registration (.registered next) ∧
        one'.2.table.nodes = two.2.table.nodes.map (Node.numbered first.name next second.name number)) ∨
      one'.1 = one.1 ∧ two'.1 = two.1 ∧ one'.2.table.nodes = two.2.table.nodes) ∧
    one'.2.counter = two.2.counter ∧ (∀ session, one'.2.isOpen session = two.2.isOpen session) ∧
    ∃ older newest newest', two.2.history.entries = older ++ newest ∧ one'.2.history.entries = older ++ newest' ∧
      newest'.Perm newest ∧ newest.length ≤ 2 := by
  intro one two two' one'
  let effect := first.effect answers (first.seen registry)
  let effect' := second.effect answers (second.seen registry)
  have on : effect.On first.name := on_effect answers registry first
  have on' : effect'.On second.name := on_effect answers registry second
  have forth : two = (second.result answers (effect.apply registry).counter.draw.1 (second.seen registry),
      effect'.apply (effect.apply registry)) := perform_after apart
  have back : one' = (first.result answers (effect'.apply registry).counter.draw.1 (first.seen registry),
      effect.apply (effect'.apply registry)) := perform_after apart.symm
  have began : one.1 = first.result answers registry.counter.draw.1 (first.seen registry) :=
    congrArg Prod.fst (perform_eq answers registry first)
  have began' : two'.1 = second.result answers registry.counter.draw.1 (second.seen registry) :=
    congrArg Prod.fst (perform_eq answers registry second)
  rw [forth, back, began, began']
  refine ⟨?_, Effect.counter_comm _ _ _, Effect.isOpen_comm _ _ _, Effect.history_comm registry effect effect'⟩
  -- Two registrations draw the same two numbers in either order; otherwise at most one number is drawn.
  by_cases both : effect.draws = true ∧ effect'.draws = true
  · obtain ⟨draws, draws'⟩ := both
    refine .inl ⟨registry.counter.draw.1, registry.counter.draw.2.draw.1, result_of_draws draws _, ?_,
      result_of_draws draws' _, ?_, Effect.nodes_exchange on on' apart.names draws draws' registry⟩
    · rw [Effect.counter_apply_of_draws draws]
      exact result_of_draws draws' _
    · rw [Effect.counter_apply_of_draws draws']
      exact result_of_draws draws _
  · have quiet : Effect.Quiet effect effect' := by
      rw [Effect.Quiet, ← Bool.not_eq_true, ← Bool.not_eq_true]
      exact Decidable.not_and_iff_or_not.mp both
    exact .inr ⟨result_apply quiet, (result_apply quiet.symm).symm,
      Effect.nodes_comm on on' apart.names quiet registry⟩

/-- Two nodes register, and the session of the first one closes. -/
def deserted : List RegistryEvent :=
  [.openSession ⟨.loopback, 40000, 0⟩, .openSession ⟨.loopback, 40001, 0⟩, .openSession ⟨.loopback, 40002, 0⟩,
    .register { port := 1, name := ['a'] } 1, .register { port := 2, name := ['b'] } 2, .closeSession 1]

/-- The name of the first one is taken over and the second one is found dead: in either order these leave the same nodes
and sessions, and the two that are gone are in the history in the order in which they went. -/
theorem operations_on_different_names_commute_of_deserted :
    ∃ activity : Activity, (Activity.start 1).run deserted = some activity ∧
      let answers : SocketAddress → Bool := (·.port ≠ 2)
      let takeover : NameOperation := .register { port := 3, name := ['a'] } ⟨3, .loopback, 40002, 0⟩
      let one := ((lookup ['b']).perform answers (takeover.perform answers activity.registry).2).2
      let other := (takeover.perform answers ((lookup ['b']).perform answers activity.registry).2).2
      other.table.nodes = one.table.nodes ∧ (∀ session, other.isOpen session = one.isOpen session) ∧
        one.history.entries.map (·.name) = [['a'], ['b']] ∧ other.history.entries.map (·.name) = [['b'], ['a']] := by
  let activity := ((Activity.start 1).run deserted).get (by decide)
  have run : (Activity.start 1).run deserted = some activity := (Option.some_get _).symm
  let answers : SocketAddress → Bool := (·.port ≠ 2)
  let takeover : NameOperation := .register { port := 3, name := ['a'] } ⟨3, .loopback, 40002, 0⟩
  have acts : takeover.actsOn activity.registry = some ⟨{ port := 1, name := ['a'] }, 1, ⟨1, .loopback, 40000, 0⟩⟩ := by
    decide
  have acts' : (lookup ['b']).actsOn activity.registry =
      some ⟨{ port := 2, name := ['b'] }, 2, ⟨2, .loopback, 40001, 0⟩⟩ := by decide
  have recorded : ((lookup ['b']).perform answers (takeover.perform answers activity.registry).2).2.history.entries.map
      (·.name) = [['a'], ['b']] := by decide
  have recorded' : (takeover.perform answers ((lookup ['b']).perform answers activity.registry).2).2.history.entries.map
      (·.name) = [['b'], ['a']] := by decide
  clear_value activity
  have apart : Apart activity.registry takeover (lookup ['b']) := by
    refine ⟨by decide, ?_⟩
    rw [acts, acts']
    rintro _ ⟨⟩ _ ⟨⟩
    decide
  obtain ⟨results, _, sessions, _⟩ := operations_on_different_names_commute answers apart
  refine ⟨activity, run, ?_, sessions, recorded, recorded'⟩
  rcases results with ⟨_, _, _, drawn, _⟩ | ⟨_, _, same⟩
  · cases drawn
  · exact same

end NameOperation

end PortMapper
