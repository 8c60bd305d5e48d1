import PortMapper.Daemon.Ledger
import PortMapper.Proofs.Daemon.Connection
import PortMapper.Proofs.Registry.Conservation

/-!
# Every registration has its connection

The ledger of a daemon is sound (`sound_of_reachable`): what entered the table is what left it and what is in it,
and a connection holds the name of the only node that was registered for its session, if any was.
-/

namespace PortMapper

namespace DaemonLedger

variable {ledger : DaemonLedger}

/-- The nodes of a session. -/
def ofSession (nodes : List Node) (id : UInt64) : List Node :=
  nodes.filter (·.session.id = id)

theorem mem_ofSession {nodes : List Node} {id : UInt64} {node : Node} :
    node ∈ ofSession nodes id ↔ node ∈ nodes ∧ node.session.id = id := by
  rw [ofSession, List.mem_filter, decide_eq_true_iff]

/-- The registry and the books of a ledger. -/
def activity (ledger : DaemonLedger) : Activity where
  registry := ledger.daemon.registry
  accepted := ledger.entered
  ended := ledger.left

/-- What the ledger says about a connection that has not ended. -/
structure Serves (ledger : DaemonLedger) (connection : Connection) : Prop where
  numbered : connection.session.id.toNat ≤ ledger.daemon.opened
  registered : (ofSession ledger.entered connection.session.id).map Node.name =
    connection.phase.held?.toList
  ordered : connection.phase.Ordered

structure Sound (ledger : DaemonLedger) : Prop where
  conserved : ledger.activity.Conserved
  distinct : (ledger.daemon.connections.map (·.session.id)).Nodup
  issued : ∀ node ∈ ledger.entered, node.session.id.toNat ≤ ledger.daemon.opened
  serves : ∀ connection ∈ ledger.daemon.connections, ledger.Serves connection

theorem Sound.entered_of_mem (sound : ledger.Sound) {node : Node} (registered : node ∈ ledger.nodes) :
    node ∈ ledger.entered :=
  sound.conserved.split.mem_iff.mpr (List.mem_append_right _ registered)

/-! ## What comes into the books -/

section Become

variable {daemon : Daemon} {gone : List Node} {session : Session}

section Retire

variable {closed : Registry} (table : closed.table = ledger.daemon.registry.table)
  (retires : closed.Retires gone daemon.registry)

include table retires

theorem entered_of_retires : (ledger.become daemon).entered = ledger.entered := by
  have none : daemon.registry.table.nodes.filter (!ledger.nodes.contains ·) = [] := by
    refine List.filter_eq_nil_iff.mpr fun node member => ?_
    have registered : node ∈ ledger.nodes := by
      rw [nodes, ← table]
      exact (retires.mem_nodes.mp member).1
    simpa using registered
  rw [become, none, List.append_nil]

theorem left_of_retires (ascending : Node.Ascending gone) :
    (ledger.become daemon).left = ledger.left ++ gone := by
  have missing := retires.missing_eq ascending
  rw [table] at missing
  exact congrArg (ledger.left ++ ·) missing

theorem conserved_of_retires (history : closed.history = ledger.daemon.registry.history)
    (ascending : Node.Ascending gone) (conserved : ledger.activity.Conserved) :
    (ledger.become daemon).activity.Conserved := by
  let closing : Activity := { ledger.activity with registry := closed }
  have change : Activity.Change closing (ledger.become daemon).activity :=
    .retire gone retires (entered_of_retires table retires) (left_of_retires table retires ascending)
  refine Activity.conserved_of_change change ⟨?_, history.trans conserved.recorded⟩
  rw [table]
  exact conserved.split

end Retire

section Accept

variable {node : NodeDescription} (sound : ledger.Sound)
  (unregistered : ofSession ledger.entered session.id = [])
  (accepted : daemon.registry =
    (ledger.daemon.registry.accept (ledger.daemon.registry.find? node.name) node session).2)

include sound unregistered

/-- A session without nodes has none in the table. -/
theorem absent_of_unregistered {creation : UInt16} : ⟨node, creation, session⟩ ∉ ledger.nodes := by
  intro registered
  have own := mem_ofSession.mpr ⟨sound.entered_of_mem registered, rfl⟩
  rw [unregistered] at own
  cases own

include accepted

theorem entered_of_accept : (ledger.become daemon).entered =
    ledger.entered ++ [⟨node, ledger.daemon.registry.counter.draw.1, session⟩] := by
  rw [become, accepted]
  exact congrArg (ledger.entered ++ ·)
    (NodeTable.arrivals_insert (absent_of_unregistered sound unregistered))

theorem left_of_accept : (ledger.become daemon).left =
    ledger.left ++ (ledger.daemon.registry.find? node.name).toList := by
  rw [become, accepted]
  exact congrArg (ledger.left ++ ·)
    (NodeTable.departures_insert (absent_of_unregistered sound unregistered))

theorem conserved_of_accept
    (stale : ∀ holder, ledger.daemon.registry.find? node.name = some holder →
      ledger.daemon.registry.isOpen holder.session = false) :
    (ledger.become daemon).activity.Conserved :=
  have change : Activity.Change ledger.activity (ledger.become daemon).activity :=
    .accept node session stale accepted (entered_of_accept sound unregistered accepted)
      (left_of_accept sound unregistered accepted)
  Activity.conserved_of_change change sound.conserved

end Accept

end Become

/-! ## What an event does to the books -/

variable {id : UInt64} {connection : Connection}

theorem step_connection (serving : ledger.daemon.connection? id = some connection) (event : ConnectionEvent) :
    ledger.step (.connection id event) = ledger.become
      { ledger.daemon with
        registry := (connection.step ledger.daemon.dispatcher ledger.daemon.registry event).2
        connections :=
          (ledger.daemon.connections.map fun other => if other.session.id = id then
            (connection.step ledger.daemon.dispatcher ledger.daemon.registry event).1
          else other).filter (!·.isFinished)
        running := ledger.daemon.running && !connection.stopsDaemon event } := by
  simp only [step, Daemon.step, Daemon.onConnection, serving]

theorem mem_of_serving (serving : ledger.daemon.connection? id = some connection) :
    connection ∈ ledger.daemon.connections ∧ connection.session.id = id :=
  ⟨List.mem_of_find?_eq_some serving, by simpa using List.find?_some serving⟩

/-- Who goes on after an event of a connection. -/
theorem mem_goingOn {connections : List Connection} {after other : Connection}
    (member : other ∈ (connections.map fun other =>
      if other.session.id = id then after else other).filter (!·.isFinished)) :
    other = after ∧ after.isFinished = false ∨ other ∈ connections ∧ other.session.id ≠ id := by
  obtain ⟨mapped, goesOn⟩ := List.mem_filter.mp member
  obtain ⟨before, listed, rfl⟩ := List.mem_map.mp mapped
  by_cases own : before.session.id = id
  · rw [if_pos own] at goesOn ⊢
    exact .inl ⟨rfl, by simpa using goesOn⟩
  · rw [if_neg own]
    exact .inr ⟨listed, own⟩

theorem distinct_goingOn {connections : List Connection} {after : Connection}
    (own : after.session.id = id) (distinct : (connections.map (·.session.id)).Nodup) :
    (((connections.map fun other => if other.session.id = id then after else other).filter
      (!·.isFinished)).map (·.session.id)).Nodup := by
  refine List.Nodup.sublist (List.filter_sublist.map _) ?_
  rw [List.map_map]
  have same : ∀ other ∈ connections, ((·.session.id) ∘ fun other : Connection =>
      if other.session.id = id then after else other) other = other.session.id := by
    intro other _
    by_cases mine : other.session.id = id
    · simp [mine, own]
    · simp [mine]
  rw [List.map_congr_left same]
  exact distinct

theorem ofSession_append (nodes others : List Node) (id : UInt64) :
    ofSession (nodes ++ others) id = ofSession nodes id ++ ofSession others id :=
  List.filter_append _ _

section Move

variable {after : Connection} {registry : Registry} {daemon : Daemon} (sound : ledger.Sound)
  (member : connection ∈ ledger.daemon.connections)
  (move : connection.Move ledger.daemon.registry after registry) (become : daemon.registry = registry)

include sound member move become

/-- The nodes that come in are those of the connection, which holds the name of the only one. -/
theorem books_of_move : (ledger.become daemon).activity.Conserved ∧
    ∃ added, (ledger.become daemon).entered = ledger.entered ++ added ∧
      (∀ node ∈ added, node.session = connection.session) ∧
      (after.isFinished = false →
        (ofSession (ledger.entered ++ added) connection.session.id).map Node.name =
          after.phase.held?.toList) := by
  have registered := (sound.serves connection member).registered
  rcases move.effect with
    ⟨node, held, holds, stale, accepted⟩ | ⟨closed, gone, table, history, retires, ascending, holds⟩
  · have unregistered : ofSession ledger.entered connection.session.id = [] := by
      rw [held] at registered
      exact List.map_eq_nil_iff.mp registered
    refine ⟨conserved_of_accept sound unregistered (become.trans accepted) stale, _,
      entered_of_accept sound unregistered (become.trans accepted), ?_, fun _ => ?_⟩
    · intro node new
      rw [List.mem_singleton.mp new]
    · rw [ofSession_append, unregistered, holds]
      simp [ofSession, Node.name]
  · rw [← become] at retires
    refine ⟨conserved_of_retires table retires history ascending sound.conserved, [], ?_,
      List.forall_mem_nil _, ?_⟩
    · rw [List.append_nil, entered_of_retires table retires]
    · intro goesOn
      rw [List.append_nil, registered, holds goesOn]

theorem sound_of_move (session : after.session = connection.session) (ordered : after.phase.Ordered)
    (opened : daemon.opened = ledger.daemon.opened)
    (goingOn : daemon.connections = (ledger.daemon.connections.map fun other =>
      if other.session.id = connection.session.id then after else other).filter (!·.isFinished)) :
    (ledger.become daemon).Sound := by
  obtain ⟨conserved, added, entered, owned, holds⟩ := books_of_move sound member move become
  have numbered := (sound.serves connection member).numbered
  refine ⟨conserved, ?_, ?_, ?_⟩
  · have distinct := distinct_goingOn (congrArg Session.id session) sound.distinct
    rw [← goingOn] at distinct
    exact distinct
  · intro node inside
    rw [entered] at inside
    change node.session.id.toNat ≤ daemon.opened
    rw [opened]
    rcases List.mem_append.mp inside with old | new
    · exact sound.issued node old
    · rw [owned node new]
      exact numbered
  · intro other listed
    change other ∈ daemon.connections at listed
    rw [goingOn] at listed
    rcases mem_goingOn listed with ⟨rfl, goesOn⟩ | ⟨listed, others⟩
    · refine ⟨?_, ?_, ordered⟩
      · rw [session]
        exact Nat.le_trans numbered (Nat.le_of_eq opened.symm)
      · rw [entered, session]
        exact holds goesOn
    · obtain ⟨numbered, registered, ordered⟩ := sound.serves other listed
      refine ⟨Nat.le_trans numbered (Nat.le_of_eq opened.symm), ?_, ordered⟩
      have foreign : ofSession added other.session.id = [] := by
        refine List.filter_eq_nil_iff.mpr fun node new => ?_
        rw [owned node new]
        simpa using others.symm
      rw [entered, ofSession_append, foreign, List.append_nil, registered]

end Move

theorem sound_of_connection (sound : ledger.Sound)
    (serving : ledger.daemon.connection? id = some connection) (event : ConnectionEvent) :
    (ledger.step (.connection id event)).Sound := by
  obtain ⟨member, rfl⟩ := mem_of_serving serving
  have ordered := (sound.serves connection member).ordered
  rw [step_connection serving]
  exact sound_of_move sound member
    (connection.step_moves ledger.daemon.dispatcher ledger.daemon.registry ordered event) rfl
    (connection.session_step ledger.daemon.dispatcher ledger.daemon.registry event)
    (connection.ordered_step ledger.daemon.dispatcher ledger.daemon.registry ordered event) rfl rfl

/-- An event that does not touch the registry lets no connection in, or one with a number that is new. -/
theorem sound_of_same {daemon : Daemon} (sound : ledger.Sound)
    (same : daemon.registry = ledger.daemon.registry) (opened : ledger.daemon.opened ≤ daemon.opened)
    (distinct : (daemon.connections.map (·.session.id)).Nodup)
    (serves : ∀ connection ∈ daemon.connections, connection ∈ ledger.daemon.connections ∨
      connection.phase = .reading ∧ ledger.daemon.opened < connection.session.id.toNat ∧
        connection.session.id.toNat ≤ daemon.opened) :
    (ledger.become daemon).Sound := by
  have retires : ledger.daemon.registry.Retires [] daemon.registry := same ▸ .none
  have entered := entered_of_retires rfl retires
  refine ⟨conserved_of_retires rfl retires rfl .nil sound.conserved, distinct, ?_, ?_⟩
  · intro node inside
    rw [entered] at inside
    exact Nat.le_trans (sound.issued node inside) opened
  · intro connection listed
    rcases serves connection listed with old | ⟨reading, above, below⟩
    · obtain ⟨numbered, registered, ordered⟩ := sound.serves connection old
      exact ⟨Nat.le_trans numbered opened, entered ▸ registered, ordered⟩
    · refine ⟨below, ?_, ?_⟩
      · have unregistered : ofSession ledger.entered connection.session.id = [] := by
          refine List.filter_eq_nil_iff.mpr fun node inside => ?_
          have issued := sound.issued node inside
          simp only [decide_eq_true_iff]
          rintro same
          rw [same] at issued
          omega
        rw [entered, unregistered, reading]
        rfl
      · rw [reading]
        exact fun _ _ => nofun

theorem sound_of_rest {daemon : Daemon} (sound : ledger.Sound)
    (same : daemon.registry = ledger.daemon.registry) (opened : daemon.opened = ledger.daemon.opened)
    (fewer : daemon.connections.Sublist ledger.daemon.connections) : (ledger.become daemon).Sound :=
  sound_of_same sound same (Nat.le_of_eq opened.symm) (sound.distinct.sublist (fewer.map _))
    fun _ listed => .inl (fewer.subset listed)

theorem sound_of_connect (sound : ledger.Sound) (peer : SocketAddress)
    (bounded : (ledger.step (.connect peer)).daemon.opened < UInt64.size) :
    (ledger.step (.connect peer)).Sound := by
  rw [step, Daemon.step, Daemon.connect] at bounded ⊢
  split at bounded
  · next admitted =>
    rw [if_pos admitted]
    have number : (ledger.daemon.nextSession peer).id.toNat = ledger.daemon.opened + 1 := by
      rw [Daemon.nextSession, UInt64.toNat_ofNat']
      exact Nat.mod_eq_of_lt bounded
    refine sound_of_same sound rfl (Nat.le_succ _) ?_ ?_
    · refine List.nodup_cons.mpr ⟨fun listed => ?_, sound.distinct⟩
      obtain ⟨other, listed, same⟩ := List.mem_map.mp listed
      have numbered := (sound.serves other listed).numbered
      rw [same, Connection.accept, number] at numbered
      omega
    · intro connection listed
      rcases List.mem_cons.mp listed with rfl | old
      · exact .inr ⟨rfl, number.symm ▸ Nat.lt_succ_self _, Nat.le_of_eq number⟩
      · exact .inl old
  · next refused =>
    rw [if_neg refused]
    exact sound_of_rest sound rfl rfl (.refl _)

theorem sound_of_step (sound : ledger.Sound) (event : DaemonEvent)
    (bounded : (ledger.step event).daemon.opened < UInt64.size) : (ledger.step event).Sound := by
  cases event with
  | connect peer => exact sound_of_connect sound peer bounded
  | connection id event =>
    cases serving : ledger.daemon.connection? id with
    | none =>
      rw [step, Daemon.step, Daemon.onConnection, serving]
      exact sound_of_rest sound rfl rfl (.refl _)
    | some connection => exact sound_of_connection sound serving event
  | shutdown => exact sound_of_rest sound rfl rfl (.refl _)
  | abort =>
    rw [step, Daemon.step, Daemon.abort]
    split
    · exact sound_of_rest sound rfl rfl (.refl _)
    · exact sound_of_rest sound rfl rfl (List.nil_sublist _)

/-! ## All ledgers -/

theorem opened_le_step (ledger : DaemonLedger) (event : DaemonEvent) :
    ledger.daemon.opened ≤ (ledger.step event).daemon.opened := by
  change ledger.daemon.opened ≤ (ledger.daemon.step event).opened
  cases event with
  | connect peer =>
    rw [Daemon.step, Daemon.connect]
    split
    · exact Nat.le_succ _
    · exact Nat.le_refl _
  | connection id event =>
    rw [Daemon.step, Daemon.onConnection]
    split <;> exact Nat.le_refl _
  | shutdown => exact Nat.le_refl _
  | abort =>
    rw [Daemon.step, Daemon.abort]
    split <;> exact Nat.le_refl _

theorem opened_le_run (ledger : DaemonLedger) (events : List DaemonEvent) :
    ledger.daemon.opened ≤ (ledger.run events).daemon.opened := by
  induction events generalizing ledger with
  | nil => exact Nat.le_refl _
  | cons event events ih => exact Nat.le_trans (ledger.opened_le_step event) (ih (ledger.step event))

theorem sound_start (settings : ServerSettings) (port seed : UInt16) : (start settings port seed).Sound where
  conserved := ⟨.nil, rfl⟩
  distinct := .nil
  issued := List.forall_mem_nil _
  serves := List.forall_mem_nil _

theorem sound_of_run {events : List DaemonEvent} (sound : ledger.Sound)
    (bounded : (ledger.run events).daemon.opened < UInt64.size) : (ledger.run events).Sound := by
  induction events generalizing ledger with
  | nil => exact sound
  | cons event events ih =>
    have bound := Nat.lt_of_le_of_lt ((ledger.step event).opened_le_run events) bounded
    exact ih (sound_of_step sound event bound) bounded

/-- Whatever has happened to a daemon, its ledger is sound. -/
theorem sound_of_reachable (reachable : ledger.Reachable) : ledger.Sound := by
  obtain ⟨settings, port, seed, events, rfl, bounded⟩ := reachable
  exact sound_of_run (sound_start settings port seed) bounded

end DaemonLedger

end PortMapper
