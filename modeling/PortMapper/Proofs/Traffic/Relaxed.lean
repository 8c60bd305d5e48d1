import PortMapper.Proofs.Registry.Clearing
import PortMapper.Traffic.Probing

/-!
# Relaxed dispatchers

A dispatcher that allows kill and stop does what it is told, and no more. A kill takes out every node
(`Dispatcher.dispatch_kill`, `Registry.removeAll_of_perm`), and then lookups and listings find nobody until somebody
registers again (`Dispatcher.findsNobody_of_empty`). A stop takes out the node of the name, whether or not it is alive,
and says whether there was one (`Dispatcher.dispatch_stop_of_found`, `Dispatcher.dispatch_stop_of_free`).
-/

namespace PortMapper

namespace Dispatcher

variable {dispatcher : Dispatcher} {registry : Registry} {name : Text} {node : Node}

/-! ## A registry without nodes -/

/-- Whoever asks for nodes finds nobody. -/
structure FindsNobody (dispatcher : Dispatcher) (registry : Registry) : Prop where
  lookup : ∀ answers name, registry.lookup answers name = (none, registry)
  list : ∀ answers, registry.list answers = ([], registry)
  /-- A lookup or a listing that begins now is answered as for an empty registry and changes nothing, whatever the
  registry is when it ends, and whoever responds. -/
  resolve : ∀ request, request.kind = .nodeInfo ∨ request.kind = .names → ∀ seed answers session responds final,
    dispatcher.resolve responds final (inquire registry session request) =
      ((dispatcher.dispatch answers (.empty seed) session request).1, final)
  /-- A dump that begins now shows nobody but those who left. -/
  resolve_dump : ∀ session responds final,
    dispatcher.resolve responds final (inquire registry session .dump) =
      ((dispatcher.dump [] final.history).encode.map (·, .close), final)

theorem toCheck_of_empty (empty : registry.table.nodes = []) (request : Request) : toCheck registry request = [] := by
  cases request with
  | nodeInfo name => simp only [toCheck, Registry.find?, NodeTable.find?, empty, List.find?_nil, Option.toList_none]
  | names | dump => exact empty
  | registration | kill | stop => rfl

/-- What does not have to be checked is answered without verdicts. -/
theorem resolve_of_empty (empty : registry.table.nodes = []) (responds : Node → Bool) (final : Registry)
    (session : Session) (request : Request) :
    dispatcher.resolve responds final (inquire registry session request) =
      dispatcher.answer final session [] request := by
  rw [inquire, toCheck_of_empty empty]
  rfl

theorem findsNobody_of_empty (empty : registry.table.nodes = []) : dispatcher.FindsNobody registry where
  lookup := fun answers name => by
    simp only [Registry.lookup, Registry.find?, NodeTable.find?, empty, List.find?_nil, Option.toList_none]
    rfl
  list := fun answers => by
    rw [Registry.list, Registry.snapshot, empty]
    rfl
  resolve := fun request asks seed answers session responds final => by
    rw [resolve_of_empty empty]
    cases request with
    | nodeInfo name | names => rfl
    | registration | dump | kill | stop => simp [Request.kind] at asks
  resolve_dump := fun session responds final => resolve_of_empty empty responds final session .dump

/-! ## Kill and stop -/

section Relaxed

variable (relaxed : dispatcher.relaxed = true) (answers : SocketAddress → Bool) (session : Session)

include relaxed

theorem dispatch_kill (registry : Registry) :
    dispatcher.dispatch answers registry session .kill = (.ok (KillReply.ok.encode, .shutdown), registry.clear.2) := by
  simp only [dispatch, answer, relaxed, if_true]

theorem dispatch_stop_of_found (found : registry.find? name = some node) :
    dispatcher.dispatch answers registry session (.stop name) =
      (.ok (StopReply.stopped.encode, .close), registry.retire node) := by
  simp only [dispatch, answer, relaxed, if_true, Registry.remove, found]

theorem dispatch_stop_of_free (free : registry.find? name = none) :
    dispatcher.dispatch answers registry session (.stop name) =
      (.ok (StopReply.notThere.encode, .close), registry) := by
  simp only [dispatch, answer, relaxed, if_true, Registry.remove, free]

end Relaxed

/-- How a stop of a name went: the reply, and the registry that it left. -/
structure Stops (dispatcher : Dispatcher) (registry : Registry) (name : Text) (answer : Answer) (after : Registry) :
    Prop where
  stopped : answer = .ok (StopReply.stopped.encode, .close) ↔ ∃ node ∈ registry.table.nodes, node.name = name
  notThere : (∀ node ∈ registry.table.nodes, node.name ≠ name) →
    answer = .ok (StopReply.notThere.encode, .close) ∧ after = registry
  takesOut : ∀ node ∈ registry.table.nodes, node.name = name → registry.TakenOut [node] after
  /-- A second stop has nothing to do. -/
  again : ∀ answers session, dispatcher.dispatch answers after session (.stop name) =
    (.ok (StopReply.notThere.encode, .close), after)

theorem stops (relaxed : dispatcher.relaxed = true) (answers : SocketAddress → Bool) (session : Session) :
    dispatcher.Stops registry name (dispatcher.dispatch answers registry session (.stop name)).1
      (dispatcher.dispatch answers registry session (.stop name)).2 := by
  cases found : registry.find? name with
  | some node =>
    obtain ⟨registered, named⟩ := Registry.find?_eq_some_iff.mp found
    rw [dispatch_stop_of_found relaxed answers session found]
    refine ⟨iff_of_true rfl ⟨node, registered, named⟩, ?_, ?_, ?_⟩
    · exact fun nobody => absurd named (nobody node registered)
    · intro other member same
      have own : other = node :=
        NodeTable.eq_of_name_eq registry.table.ascending member registered (same.trans named.symm)
      subst own
      exact (Registry.Retires.one (named ▸ found) .none).takenOut
    · intro answers session
      refine dispatch_stop_of_free relaxed answers session ?_
      rw [← named]
      exact NodeTable.find?_erase_self _ _
  | none =>
    have nobody : ∀ node ∈ registry.table.nodes, node.name ≠ name := fun node registered named => by
      rw [Registry.find?_eq_some_iff.mpr ⟨registered, named⟩] at found
      cases found
    have words : StopReply.notThere.encode ≠ StopReply.stopped.encode := by decide
    rw [dispatch_stop_of_free relaxed answers session found]
    refine ⟨iff_of_false ?_ ?_, fun _ => ⟨rfl, rfl⟩, ?_, ?_⟩
    · exact fun same => words (congrArg Prod.fst (Except.ok.inj same))
    · exact fun ⟨node, registered, named⟩ => nobody node registered named
    · exact fun node registered named => absurd named (nobody node registered)
    · exact fun answers session => dispatch_stop_of_free relaxed answers session found

end Dispatcher

namespace Activity

/-- With kill and stop allowed, a kill is answered with OK and makes the port mapper stop. It takes every node out of
the registry, in whatever order the table gives their names, and counts them; then every lookup and every listing finds
nobody until a registration is accepted. A stop is answered with STOPPED if the name is registered, whether or not its
node is alive, and then takes out this node and no other; else, and the second time, it is answered with NOEXIST and
changes nothing. -/
theorem kill_takes_all_and_stop_takes_one {dispatcher : Dispatcher} {activity : Activity}
    (relaxed : dispatcher.relaxed = true) (reachable : activity.Reachable) :
    (∀ answers session, dispatcher.dispatch answers activity.registry session .kill =
      (.ok (KillReply.ok.encode, .shutdown), activity.registry.clear.2)) ∧
    (activity.registry.clear.1 = activity.registry.size ∧ activity.registry.clear.2.table.nodes = [] ∧
      activity.registry.TakenOut activity.registry.table.nodes activity.registry.clear.2) ∧
    (∀ entries, entries.Perm activity.registry.table.nodes → ∀ count after,
      activity.registry.removeAll (entries.map (·.name)) = (count, after) →
        count = activity.registry.size ∧ after.table.nodes = [] ∧ activity.registry.TakenOut entries after) ∧
    (∃ cleared, activity.step .clear = some cleared ∧ cleared.registry = activity.registry.clear.2 ∧
      cleared.ended = activity.ended ++ activity.registry.table.nodes ∧
      ∀ events later, cleared.run events = some later → later.accepted = activity.accepted →
        dispatcher.FindsNobody later.registry) ∧
    (∀ name answers session answer after,
      dispatcher.dispatch answers activity.registry session (.stop name) = (answer, after) →
        dispatcher.Stops activity.registry name answer after) := by
  have cleared := activity.registry.removeAll_of_perm (List.Perm.refl _)
  have empty : activity.registry.clear.2.table.nodes = [] := cleared.2.nodes_of_perm (.refl _)
  refine ⟨fun answers session => Dispatcher.dispatch_kill relaxed answers session _, ⟨cleared.1, empty, cleared.2⟩,
    ?_, ⟨activity.become activity.registry.clear.2, rfl, rfl, ?_, ?_⟩, ?_⟩
  · intro entries perm count after removed
    obtain ⟨all, takenOut⟩ := activity.registry.removeAll_of_perm perm
    rw [removed] at all takenOut
    exact ⟨all, takenOut.nodes_of_perm perm, takenOut⟩
  · exact congrArg (activity.ended ++ ·)
      (activity.registry.clear_retires.missing_eq activity.registry.table.nodes_ascending)
  · intro events later run nobody
    have ordered : (activity.become activity.registry.clear.2).Ordered := reachable.ordered
    exact Dispatcher.findsNobody_of_empty (nodes_of_run_of_empty ordered empty run nobody)
  · intro name answers session answer after stopped
    have stops : dispatcher.Stops activity.registry name _ _ := Dispatcher.stops relaxed answers session
    rwa [stopped] at stops

/-- Two nodes register, and the session of the second one closes. -/
def household : List RegistryEvent :=
  [.openSession ⟨.loopback, 40000, 0⟩, .openSession ⟨.loopback, 40001, 0⟩, .register { port := 1, name := ['a'] } 1,
    .register { port := 2, name := ['b'] } 2, .closeSession 2]

/-- A session opens, a node that was taken out is given up, and a listing begins and ends. -/
def visit : List RegistryEvent :=
  [.openSession ⟨.loopback, 40002, 0⟩, .removeSession ['a'] 1, .beginList, .settle 0 fun _ => true]

/-- A kill takes out two nodes, of which one is dead, and a visitor finds nobody then. A stop takes out the dead one. -/
theorem kill_takes_all_and_stop_takes_one_of_household :
    ∃ activity : Activity, (start 1).run household = some activity ∧
      activity.registry.clear.1 = 2 ∧ activity.registry.clear.2.table.nodes = [] ∧
      (∃ cleared later, activity.step .clear = some cleared ∧ cleared.run visit = some later ∧
        Dispatcher.FindsNobody ⟨true, 4369⟩ later.registry) ∧
      ∃ answer after, Dispatcher.dispatch ⟨true, 4369⟩ (fun _ => false) activity.registry ⟨3, ⟨.loopback, 40002, 0⟩⟩
          (.stop ['b']) = (answer, after) ∧
        answer = .ok (StopReply.stopped.encode, .close) ∧ after.table.nodes.map (·.name) = [['a']] := by
  let activity := ((start 1).run household).get (by decide)
  let later := ((activity.become activity.registry.clear.2).run visit).get (by decide)
  have run : (start 1).run household = some activity := (Option.some_get _).symm
  have visited : (activity.become activity.registry.clear.2).run visit = some later := (Option.some_get _).symm
  have relaxed : (⟨true, 4369⟩ : Dispatcher).relaxed = true := rfl
  obtain ⟨_, ⟨counted, empty, _⟩, _, ⟨_, ⟨⟩, _, _, nobody⟩, stops⟩ :=
    kill_takes_all_and_stop_takes_one relaxed ⟨1, household, run⟩
  have stop := stops ['b'] (fun _ => false) ⟨3, ⟨.loopback, 40002, 0⟩⟩ _ _ rfl
  refine ⟨activity, run, counted.trans (by decide), empty, ⟨_, later, rfl, visited, nobody visit later visited ?_⟩,
    _, _, rfl, stop.stopped.mpr ?_, ?_⟩
  · decide
  · decide
  · decide

end Activity

end PortMapper
