import PortMapper.Proofs.Registry.Checking
import PortMapper.Traffic.Probing

/-!
# What a dump says twice

A dump is answered in two steps. The nodes that it lists as active were found when the request arrived, and its old
and unused entries are what the history holds when the verdicts are there. Each part lists a registration once. A
registration that is found alive and leaves in between is in both parts, and no other one is
(`dump_repeats_exactly_who_left`, `dump_contradicts_itself`).
-/

namespace PortMapper

/-- What tells a registration: its name and the number of its connection. -/
def DumpEntry.claim (entry : DumpEntry) : Text × UInt64 :=
  (entry.name, entry.fd)

/-- What tells a registration that ended. -/
def Retirement.claim (retirement : Retirement) : Text × UInt64 :=
  (retirement.name, retirement.session)

/-- The nodes that a dump lists as active if it arrives now, given which nodes respond. -/
def Registry.reported (registry : Registry) (responds : Node → Bool) : List Node :=
  registry.table.nodes.filter fun node => registry.isOpen node.session && responds node

theorem Node.Ascending.nodup_claims {nodes : List Node} (ascending : Ascending nodes) :
    (nodes.map Node.claim).Nodup := by
  refine List.pairwise_map.mpr (ascending.imp fun {a b} lower same => ?_)
  rw [show a.name = b.name from congrArg Prod.fst same] at lower
  exact List.lt_irrefl _ lower

/-! ## The two parts of a dump -/

namespace Dispatcher

variable (dispatcher : Dispatcher) (nodes : List Node) (history : History)

theorem claims_active : ((dispatcher.dump nodes history).entriesIn .active).map DumpEntry.claim =
    nodes.map Node.claim := by
  have active : (dispatcher.dump nodes history).entriesIn .active = nodes.map DumpEntry.ofNode := by
    simp [Dump.entriesIn, dump, List.filter_map, Function.comp_def, DumpEntry.ofNode, DumpEntry.ofRetirement]
  rw [active, List.map_map]
  rfl

theorem claims_oldUnused : ((dispatcher.dump nodes history).entriesIn .oldUnused).map DumpEntry.claim =
    history.entries.map Retirement.claim := by
  have old : (dispatcher.dump nodes history).entriesIn .oldUnused =
      history.entries.map DumpEntry.ofRetirement := by
    simp [Dump.entriesIn, dump, List.filter_map, Function.comp_def, DumpEntry.ofNode, DumpEntry.ofRetirement]
  rw [old, List.map_map]
  rfl

theorem claims_dump : (dispatcher.dump nodes history).entries.map DumpEntry.claim =
    nodes.map Node.claim ++ history.entries.map Retirement.claim := by
  rw [dump, List.map_append, List.map_map, List.map_map]
  rfl

/-- A dump is answered with the nodes that were found when it arrived and with the history that it leaves. -/
theorem resolve_dump (responds : Node → Bool) (before later : Registry) (session : Session) :
    dispatcher.resolve responds later (inquire before session .dump) =
      let settled := (later.settle ((before.checks before.snapshot).map (·.verdict responds))).2
      ((dispatcher.dump (before.reported responds) settled.history).encode.map (·, .close), settled) := by
  have live : (later.settle ((before.checks before.snapshot).map (·.verdict responds))).1 =
      before.reported responds := before.map_filter_checks before.snapshot responds id
  rw [← live]
  rfl

end Dispatcher

/-! ## What has ended since -/

namespace Activity

variable {activity before later : Activity} {meanwhile : List RegistryEvent} {responds : Node → Bool}

/-- What ended is in the history once, if each session registers once. -/
theorem nodup_claims_of_history (conserved : activity.Conserved)
    (once : (activity.accepted.map (·.session.id)).Nodup) :
    (activity.registry.history.entries.map Retirement.claim).Nodup := by
  have ids : (activity.ended.map (·.session.id)).Nodup := by
    have both := (conserved.split.map (·.session.id)).nodup_iff.mp once
    rw [List.map_append] at both
    exact (List.nodup_append.mp both).1
  have claims : ((activity.ended.map Node.retirement).map Retirement.claim).Nodup := by
    refine List.Nodup.of_map Prod.snd ?_
    rw [List.map_map, List.map_map]
    exact ids
  rw [conserved.recorded, History.entries_ofList, List.map_drop]
  exact claims.sublist (List.drop_sublist _ _)

theorem ended_of_history (conserved : activity.Conserved) {retirement : Retirement}
    (past : retirement ∈ activity.registry.history.entries) :
    ∃ node ∈ activity.ended, node.retirement = retirement := by
  rw [conserved.recorded, History.entries_ofList] at past
  exact List.mem_map.mp (List.mem_of_mem_drop past)

/-- Of the accepted nodes those that ended are not in the table. -/
theorem not_mem_of_ended (conserved : activity.Conserved) (once : (activity.accepted.map (·.session.id)).Nodup)
    {node : Node} (ended : node ∈ activity.ended) : node ∉ activity.registry.table.nodes := by
  intro registered
  have both := conserved.split.nodup_iff.mp (List.Nodup.of_map _ once)
  exact (List.nodup_append.mp both).2.2 node ended node registered rfl

/-- If each session registers once, its number tells which of the earlier nodes a later one is. -/
theorem identified_of_run (reachable : before.Reachable) (run : before.run meanwhile = some later)
    (once : (later.accepted.map (·.session.id)).Nodup) :
    ∀ node ∈ later.registry.table.nodes, ∀ other ∈ before.registry.table.nodes,
      node.session.id = other.session.id → node = other := fun _ registered _ earlier =>
  List.inj_on_of_nodup_map once (nodes_subset_accepted (reachable.run run) registered)
    (accepted_of_run reachable run (nodes_subset_accepted reachable earlier))

/-- When the verdicts of a dump are there, nobody who was found alive is taken out. -/
theorem retires_of_settle (reachable : before.Reachable) (run : before.run meanwhile = some later)
    (once : (later.accepted.map (·.session.id)).Nodup) (responds : Node → Bool) :
    ∃ gone, later.registry.Retires gone
        (later.registry.settle ((before.registry.checks before.registry.snapshot).map (·.verdict responds))).2 ∧
      ∀ node ∈ before.registry.reported responds, node ∉ gone := by
  obtain ⟨returned, dead, settled, _, memDead⟩ :=
    LivenessCall.list.settle_checks before.registry later.registry responds
  have identified : ∀ node ∈ later.registry.table.nodes, ∀ other ∈ dead,
      node.session.id = other.session.id → node = other := fun node registered other found =>
    identified_of_run reachable run once node registered other ((memDead other).mp found).1
  obtain ⟨gone, retires, _⟩ := later.registry.foldl_evict_retires dead
  have after : (later.registry.settle
      ((before.registry.checks before.registry.snapshot).map (·.verdict responds))).2 =
        dead.foldl Registry.evict later.registry := congrArg Prod.snd settled
  refine ⟨gone, ?_, fun node found taken => ?_⟩
  · rw [after]
    exact retires
  -- Evictions take out the dead, and the node was found alive.
  · have left : node ∉ (dead.foldl Registry.evict later.registry).table.nodes := fun kept =>
      (retires.mem_nodes.mp kept).2 taken
    rw [Registry.mem_foldl_evict_of_identified identified, not_and, Decidable.not_not] at left
    obtain ⟨_, closed | silent⟩ := (memDead node).mp (left (retires.subset taken))
    · simp [Registry.reported, closed] at found
    · simp [Registry.reported, silent] at found

/-! ## What is listed twice -/

section Answered

variable {after : Registry} {gone : List Node}

/-- After the verdicts each registration is in the table or has ended. -/
theorem conserved_of_retires (conserved : later.Conserved) (retires : later.registry.Retires gone after) :
    { later with registry := after, ended := later.ended ++ gone }.Conserved :=
  conserved_of_change (.retire gone retires rfl rfl) conserved

theorem listed_twice_iff (reachable : before.Reachable) (run : before.run meanwhile = some later)
    (once : (later.accepted.map (·.session.id)).Nodup) (retires : later.registry.Retires gone after)
    (spared : ∀ node ∈ before.registry.reported responds, node ∉ gone) (claim : Text × UInt64) :
    claim ∈ (before.registry.reported responds).map Node.claim ∧
        claim ∈ after.history.entries.map Retirement.claim ↔
      ∃ node ∈ before.registry.table.nodes, node.claim = claim ∧
        before.registry.isOpen node.session = true ∧ responds node = true ∧
        node ∉ later.registry.table.nodes ∧ node.retirement ∈ after.history.entries := by
  have conserved := conserved_of_retires (conserved_of_reachable (reachable.run run)) retires
  constructor
  · rintro ⟨active, old⟩
    obtain ⟨node, found, rfl⟩ := List.mem_map.mp active
    obtain ⟨_, past, same⟩ := List.mem_map.mp old
    obtain ⟨other, ended, rfl⟩ := ended_of_history conserved past
    obtain ⟨registered, alive⟩ := List.mem_filter.mp found
    obtain ⟨isOpen, responded⟩ := (Bool.and_eq_true_iff).mp alive
    have accepted : other ∈ later.accepted := conserved.split.mem_iff.mpr (List.mem_append_left _ ended)
    have earlier : node ∈ later.accepted :=
      accepted_of_run reachable run (nodes_subset_accepted reachable registered)
    have one : other = node := List.inj_on_of_nodup_map once accepted earlier (congrArg Prod.snd same)
    subst one
    refine ⟨other, registered, rfl, isOpen, responded, fun still => ?_, past⟩
    exact not_mem_of_ended conserved once ended (retires.mem_nodes.mpr ⟨still, spared other found⟩)
  · rintro ⟨node, registered, rfl, isOpen, responded, _, past⟩
    refine ⟨List.mem_map_of_mem (List.mem_filter.mpr ⟨registered, ?_⟩), List.mem_map.mpr ⟨_, past, rfl⟩⟩
    rw [isOpen, responded]
    rfl

end Answered

/-- A dump arrives, anything else happens, and the dump is answered, all on sessions that register at most once. No
registration is listed as active twice, nor as old and unused. One is listed both ways exactly if it was found alive,
something else took it out while the dump waited, and the history still has it. So if nobody who was found alive
leaves meanwhile, each registration is listed once. -/
theorem dump_repeats_exactly_who_left (reachable : before.Reachable) (run : before.run meanwhile = some later)
    (once : (later.accepted.map (·.session.id)).Nodup) (dispatcher : Dispatcher) (responds : Node → Bool)
    (session : Session) :
    let answered := dispatcher.resolve responds later.registry
      (Dispatcher.inquire before.registry session .dump)
    let dump := dispatcher.dump (before.registry.reported responds) answered.2.history
    answered.1 = dump.encode.map (·, .close) ∧
    ((dump.entriesIn .active).map DumpEntry.claim).Nodup ∧
    ((dump.entriesIn .oldUnused).map DumpEntry.claim).Nodup ∧
    (∀ claim, claim ∈ (dump.entriesIn .active).map DumpEntry.claim ∧
        claim ∈ (dump.entriesIn .oldUnused).map DumpEntry.claim ↔
      ∃ node ∈ before.registry.table.nodes, node.claim = claim ∧
        before.registry.isOpen node.session = true ∧ responds node = true ∧
        node ∉ later.registry.table.nodes ∧ node.retirement ∈ answered.2.history.entries) ∧
    ((∀ node ∈ before.registry.table.nodes, before.registry.isOpen node.session = true → responds node = true →
        node ∈ later.registry.table.nodes) → (dump.entries.map DumpEntry.claim).Nodup) := by
  obtain ⟨gone, retires, spared⟩ := retires_of_settle reachable run once responds
  have conserved := conserved_of_retires (conserved_of_reachable (reachable.run run)) retires
  have twice := listed_twice_iff reachable run once retires spared
  rw [dispatcher.resolve_dump]
  intro answered dump
  have active : ((before.registry.reported responds).map Node.claim).Nodup :=
    Node.Ascending.nodup_claims (before.registry.table.ascending.filter _)
  have old := nodup_claims_of_history conserved once
  rw [dispatcher.claims_active, dispatcher.claims_oldUnused, dispatcher.claims_dump]
  refine ⟨rfl, active, old, twice, fun stayed => List.nodup_append.mpr ⟨active, old, ?_⟩⟩
  rintro claim found _ past rfl
  obtain ⟨node, registered, _, isOpen, responded, left, _⟩ := (twice claim).mp ⟨found, past⟩
  exact left (stayed node registered isOpen responded)

/-- Three nodes register. -/
def trio : List RegistryEvent :=
  [.openSession ⟨.loopback, 40000, 0⟩, .openSession ⟨.loopback, 40001, 0⟩, .openSession ⟨.loopback, 40002, 0⟩,
    .openSession ⟨.loopback, 40003, 0⟩, .register { port := 1, name := ['a'] } 1,
    .register { port := 2, name := ['b'] } 2, .register { port := 3, name := ['c'] } 3]

/-- The first node is stopped and another one takes over its name. -/
def takeover : List RegistryEvent :=
  [.remove ['a'], .register { port := 4, name := ['a'] } 4]

/-- Of a trio in which the second node does not respond, a dump lists the first one twice if it is taken over
meanwhile, the others once and the newcomer not at all. If nothing happens meanwhile, it lists all of them once. -/
theorem dump_repeats_exactly_who_left_of_takeover :
    ∃ before later : Activity, (start 1).run trio = some before ∧ before.run takeover = some later ∧
      let responds : Node → Bool := fun node => node.name ≠ ['b']
      let dumpAt := fun activity : Activity =>
        (⟨false, 4369⟩ : Dispatcher).dump (before.registry.reported responds)
          ((⟨false, 4369⟩ : Dispatcher).resolve responds activity.registry
            (Dispatcher.inquire before.registry ⟨5, .loopback, 40004, 0⟩ .dump)).2.history
      (dumpAt later).entries.map DumpEntry.claim = [(['a'], 1), (['c'], 3), (['a'], 1), (['b'], 2)] ∧
      (∀ claim, claim ∈ ((dumpAt later).entriesIn .active).map DumpEntry.claim ∧
        claim ∈ ((dumpAt later).entriesIn .oldUnused).map DumpEntry.claim → claim = (['a'], 1)) ∧
      ((dumpAt before).entries.map DumpEntry.claim).Nodup := by
  let before := ((start 1).run trio).get (by decide)
  let later := (before.run takeover).get (by decide)
  have began : (start 1).run trio = some before := (Option.some_get _).symm
  have run : before.run takeover = some later := (Option.some_get _).symm
  refine ⟨before, later, began, run, ?_⟩
  intro responds dumpAt
  have reachable : before.Reachable := ⟨1, trio, began⟩
  obtain ⟨_, _, _, twice, _⟩ :=
    dump_repeats_exactly_who_left reachable run (by decide) ⟨false, 4369⟩ responds ⟨5, .loopback, 40004, 0⟩
  have quiet : before.run [] = some before := rfl
  obtain ⟨_, _, _, _, once⟩ :=
    dump_repeats_exactly_who_left reachable quiet (by decide) ⟨false, 4369⟩ responds ⟨5, .loopback, 40004, 0⟩
  have first : ∀ node ∈ before.registry.table.nodes, node ∉ later.registry.table.nodes →
      node.claim = (['a'], 1) := by decide
  refine ⟨by decide, fun claim both => ?_, once fun node registered _ _ => registered⟩
  obtain ⟨node, registered, rfl, _, _, left, _⟩ := (twice claim).mp both
  exact first node registered left

/-- A node is alone. -/
def lone : List RegistryEvent :=
  [.openSession ⟨.loopback, 40000, 0⟩, .register { port := 9000, name := ['n'] } 1]

/-- The node is stopped while a dump waits for it, and its probe succeeds nevertheless: one registration is listed as
active and as old and unused. -/
theorem dump_contradicts_itself :
    ∃ before later : Activity, ∃ dump : Dump, ∃ after : Registry,
      (start 1).run lone = some before ∧ before.run [.remove ['n']] = some later ∧
      (later.accepted.map (·.session.id)).Nodup ∧
      Dispatcher.resolve ⟨true, 4369⟩ (fun _ => true) later.registry
        (Dispatcher.inquire before.registry ⟨2, .loopback, 40001, 0⟩ .dump) =
          (dump.encode.map (·, .close), after) ∧
      dump.entries = [⟨.active, ['n'], 9000, 1⟩, ⟨.oldUnused, ['n'], 9000, 1⟩] := by
  let before := ((start 1).run lone).get (by decide)
  let later := (before.run [.remove ['n']]).get (by decide)
  exact ⟨before, later, _, _, (Option.some_get _).symm, (Option.some_get _).symm, by decide,
    Dispatcher.resolve_dump _ _ _ _ _, by decide⟩

end Activity

end PortMapper
