import PortMapper.Proofs.Daemon.Ledger

/-!
# A connection that ends leaves nothing behind

However a connection ends, its session has no node in the table then, and the registration that it made, if any, is
in the history once (`ended_connection_leaves_no_node`). The same event leaves the nodes of other sessions alone, also
one that has the name by now.
-/

namespace PortMapper.DaemonLedger

variable {ledger : DaemonLedger} {connection after : Connection} {registry : Registry}

theorem held?_of_entered (sound : ledger.Sound) (member : connection ∈ ledger.daemon.connections)
    {node : Node} (entered : node ∈ ledger.entered) (own : node.session.id = connection.session.id) :
    connection.phase.held? = some node.name := by
  have named := List.mem_map_of_mem (f := Node.name) (mem_ofSession.mpr ⟨entered, own⟩)
  rw [(sound.serves connection member).registered, Option.mem_toList] at named
  exact named

/-- A connection that ends brings nothing into the table and has nothing there. -/
theorem nodes_of_finished (sound : ledger.Sound) (member : connection ∈ ledger.daemon.connections)
    {daemon : Daemon} (move : connection.Move ledger.daemon.registry after daemon.registry)
    (finished : after.isFinished = true) :
    (ledger.become daemon).entered = ledger.entered ∧
      ∀ node ∈ daemon.registry.table.nodes, node.session.id ≠ connection.session.id := by
  rcases move.effect with ⟨_, _, holds, _, _⟩ | ⟨closed, gone, table, _, retires, _, _⟩
  · rw [Connection.held?_of_isFinished finished] at holds
    cases holds
  · refine ⟨entered_of_retires table retires, fun node kept own => ?_⟩
    have old : node ∈ ledger.nodes := by
      rw [nodes, ← table]
      exact (retires.mem_nodes.mp kept).1
    have holds := held?_of_entered sound member (sound.entered_of_mem old) own
    exact move.ends holds finished kept rfl own

theorem eq_of_perm {first second : List Node} (perm : first.Perm second) (short : second.length ≤ 1) :
    first = second := by
  cases second with
  | nil => exact perm.eq_nil
  | cons node rest =>
    have only : rest = [] := List.eq_nil_of_length_eq_zero (Nat.le_zero.mp (Nat.le_of_succ_le_succ short))
    rw [only] at perm ⊢
    exact List.perm_singleton.mp perm

/-- The only registration of a session that has no node in the table has ended. -/
theorem left_of_gone {id : UInt64} (conserved : ledger.activity.Conserved)
    (gone : ∀ node ∈ ledger.nodes, node.session.id ≠ id) (short : (ofSession ledger.entered id).length ≤ 1) :
    ofSession ledger.left id = ofSession ledger.entered id := by
  have none : ofSession ledger.nodes id = [] :=
    List.filter_eq_nil_iff.mpr fun node member => by simpa using gone node member
  have perm : (ofSession ledger.left id).Perm (ofSession ledger.entered id) := by
    calc ofSession ledger.left id
      _ = ofSession (ledger.left ++ ledger.nodes) id := by rw [ofSession_append, none, List.append_nil]
      _ |>.Perm (ofSession ledger.entered id) := (conserved.split.filter _).symm
  exact eq_of_perm perm short

/-- Something happens to a connection, at any point of any run. If it is told that its registration is accepted,
its node is under the name. If it has registered a node, then the nodes and the sessions of all others are left
alone. And if it ends, its session has no node, the one node that it registered, if any, has ended once, and the
history lists the last nodes that have ended, each by its name, port and session. -/
theorem ended_connection_leaves_no_node (reachable : ledger.Reachable) {id : UInt64}
    (serving : ledger.daemon.connection? id = some connection) (event : ConnectionEvent) :
    let ended := (connection.step ledger.daemon.dispatcher ledger.daemon.registry event).1
    let after := ledger.step (.connection id event)
    (∀ creation action, ended.phase = .replying (RegistrationReply.accept creation).encode action →
      ended.phase ≠ connection.phase →
      ∃ node, after.daemon.registry.find? node.name = some ⟨node, creation, connection.session⟩ ∧
        action = .holdRegistration node.name) ∧
    (∀ node ∈ ledger.entered, node.session.id = id → ∀ other : Node, other.session.id ≠ id →
      (other ∈ after.nodes ↔ other ∈ ledger.nodes) ∧
      after.daemon.registry.isOpen other.session = ledger.daemon.registry.isOpen other.session) ∧
    (ended.isFinished = true →
      (∀ node ∈ after.nodes, node.session.id ≠ id) ∧
      (ofSession after.entered id).length ≤ 1 ∧ ofSession after.left id = ofSession after.entered id ∧
      after.daemon.registry.history.entries =
        (after.left.map fun node => ⟨node.name, node.port, node.session.id⟩).drop
          (after.left.length - History.capacity)) := by
  intro ended after
  have sound := sound_of_reachable reachable
  obtain ⟨member, rfl⟩ := mem_of_serving serving
  have served := sound.serves connection member
  have move := connection.step_moves ledger.daemon.dispatcher ledger.daemon.registry served.ordered event
  have soundAfter : after.Sound := sound_of_connection sound serving event
  have registry : after.daemon.registry =
      (connection.step ledger.daemon.dispatcher ledger.daemon.registry event).2 := by
    simp only [after, step_connection serving, become]
  rw [← registry] at move
  refine ⟨fun creation action accepting new => move.accepts accepting new, ?_, fun finished => ?_⟩
  · intro node entered own other foreign
    exact move.spares (held?_of_entered sound member entered own) foreign
  · have step : after = ledger.become after.daemon := rfl
    obtain ⟨entered, gone⟩ := nodes_of_finished sound member move finished
    rw [← step] at entered
    have short : (ofSession after.entered connection.session.id).length ≤ 1 := by
      have names := congrArg List.length served.registered
      rw [List.length_map] at names
      rw [entered, names]
      cases connection.phase.held? <;> simp
    have recorded : after.daemon.registry.history = .ofList (after.left.map Node.retirement) :=
      soundAfter.conserved.recorded
    refine ⟨gone, short, left_of_gone soundAfter.conserved gone short, ?_⟩
    rw [recorded, History.entries_ofList, List.length_map]
    rfl

/-- A node hangs up, and before its entry is removed another one registers under its name. -/
def relay : List DaemonEvent :=
  [.connect ⟨.loopback, 40000, 0⟩, .connect ⟨.loopback, 40001, 0⟩,
    .connection 1 (.read (.ok [0, 14, 120, 0, 9, 77, 0, 0, 5, 0, 5, 0, 1, 97, 0, 0])),
    .connection 1 .written, .connection 1 .closing,
    .connection 2 (.read (.ok [0, 14, 120, 0, 10, 77, 0, 0, 5, 0, 5, 0, 1, 97, 0, 0]))]

/-- At the end of a relay the first connection takes its own registration with it and leaves the second one. -/
theorem ended_connection_leaves_no_node_of_relay :
    let ledger := (start {} 4369 1).run relay
    let after := ledger.step (.connection 1 .released)
    (∀ node ∈ after.nodes, node.session.id ≠ 1) ∧ (ofSession after.left 1).map (·.port) = [9] ∧
      after.nodes.map (·.port) = [10] := by
  intro ledger after
  have reachable : ledger.Reachable := ⟨{}, 4369, 1, relay, rfl, by decide⟩
  let first : Connection := ⟨⟨1, .loopback, 40000, 0⟩, .holding ['a'], [121, 0, 0, 1]⟩
  have serving : ledger.daemon.connection? 1 = some first := by decide
  obtain ⟨gone, _, left, _⟩ :=
    (ended_connection_leaves_no_node reachable serving .released).2.2 (by decide)
  refine ⟨gone, ?_, by decide⟩
  rw [left]
  decide

end PortMapper.DaemonLedger
