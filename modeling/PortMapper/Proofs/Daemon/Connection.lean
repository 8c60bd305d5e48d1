import PortMapper.Daemon.Connection
import PortMapper.Proofs.Dispatcher
import PortMapper.Proofs.Registry.Holding

/-!
# What a connection does to the registry

An event of a connection does one of five things: it leaves the registry alone, it answers a request for which
nodes may be retired, it registers a node, it closes the session of its node, or it gives the name up and ends
(`step_moves`). Which of them can happen depends on the name that the connection holds (`Phase.held?`).
-/

namespace PortMapper

namespace Registry

variable {registry : Registry} {other : Node} {name : Text} {id : UInt64}

theorem session_of_removed {node : Node}
    (removed : node ∈ ((registry.find? name).filter (·.session.id = id)).toList) : node.session.id = id := by
  rw [Option.mem_toList, Option.filter_eq_some_iff, decide_eq_true_iff] at removed
  exact removed.2

theorem mem_removeSession (foreign : other.session.id ≠ id) :
    other ∈ (registry.removeSession name id).2.table.nodes ↔ other ∈ registry.table.nodes := by
  rw [(registry.removeSession_retires name id).mem_nodes]
  exact and_iff_left fun removed => foreign (session_of_removed removed)

theorem session_ne_of_mem_removeSession (kept : other ∈ (registry.removeSession name id).2.table.nodes)
    (named : other.name = name) : other.session.id ≠ id := by
  obtain ⟨registered, left⟩ := (registry.removeSession_retires name id).mem_nodes.mp kept
  intro own
  refine left (Option.mem_toList.mpr (Option.filter_eq_some_iff.mpr ⟨?_, decide_eq_true own⟩))
  exact find?_eq_some_iff.mpr ⟨registered, named⟩

theorem isOpen_removeSession (foreign : other.session.id ≠ id) :
    (registry.removeSession name id).2.isOpen other.session = registry.isOpen other.session := by
  rw [Bool.eq_iff_iff, isOpen_iff, isOpen_iff, (registry.removeSession_retires name id).mem_closed]
  refine not_congr (or_iff_left ?_)
  rintro ⟨node, removed, same⟩
  exact foreign (same.symm.trans (session_of_removed removed))

theorem isOpen_close {session : Session} (foreign : other.session.id ≠ session.id) :
    (registry.close session).isOpen other.session = registry.isOpen other.session := by
  rw [Bool.eq_iff_iff, isOpen_iff, isOpen_iff, close, ClosedSessions.mem_close]
  exact not_congr (or_iff_right foreign)

end Registry

namespace Phase

/-- The name of the node that was registered for a connection in this phase. -/
def held? : Phase → Option Text
  | .replying _ (.holdRegistration name) => some name
  | .holding name => some name
  | _ => none

/-- The nodes being checked are in ascending order of their names. -/
def Ordered (phase : Phase) : Prop :=
  ∀ request checks, phase = .checking request checks → Node.Ascending (checks.map (·.node))

end Phase

namespace Connection

/-- What can happen to a connection and the registry. -/
inductive Move (registry : Registry) (connection after : Connection) (registry' : Registry) : Prop
  | rest (held : after.phase.held? = connection.phase.held?)
      (silent : ∀ reply action, after.phase = .replying reply action →
        connection.phase = .replying reply action)
      (same : registry' = registry)
  | answer (nodes : List Node) (held : connection.phase.held? = none) (holds : after.phase.held? = none)
      (refusing : ∀ creation action,
        after.phase ≠ .replying (RegistrationReply.accept creation).encode action)
      (retires : registry.Retires nodes registry') (ascending : Node.Ascending nodes)
  | register (node : NodeDescription) (held : connection.phase.held? = none)
      (accepting : after.phase = .replying (RegistrationReply.accept registry.counter.draw.1).encode
        (.holdRegistration node.name))
      (stale : ∀ holder, registry.find? node.name = some holder →
        registry.isOpen holder.session = false)
      (accepted : registry' = (registry.accept (registry.find? node.name) node connection.session).2)
  | close (name : Text) (held : connection.phase.held? = some name) (same : after = connection)
      (closed : registry' = registry.close connection.session)
  | leave (name : Text) (held : connection.phase.held? = some name) (ended : after.phase = .finished)
      (closed : Registry) (closing : closed = registry ∨ closed = registry.close connection.session)
      (removed : registry' = (closed.removeSession name connection.session.id).2)

variable {dispatcher : Dispatcher} {registry : Registry} {connection : Connection}

theorem answer_moves (held : connection.phase.held? = none) {verdicts : List Verdict}
    (ascending : Node.Ascending (verdicts.map (·.1))) (request : Request) :
    Move registry connection (connection.answer dispatcher registry verdicts request).1
      (connection.answer dispatcher registry verdicts request).2 := by
  rcases dispatcher.answer_cases registry connection.session verdicts request with
    ⟨node, _, stale, answered⟩ | ⟨⟨nodes, retires, ordered⟩, others⟩
  · simp only [answer, answered]
    exact .register node held rfl stale rfl
  · unfold answer
    split
    · next reply action registry' answered =>
      rw [answered] at retires others
      obtain ⟨refuses, closes⟩ := others reply action rfl
      refine .answer nodes held ?_ ?_ retires (ordered ascending)
      · cases action with
        | holdRegistration name => exact absurd rfl (closes name)
        | close | shutdown => rfl
      · rintro creation other ⟨⟩
        exact refuses creation rfl
    · next answered =>
      rw [answered] at retires
      exact .answer nodes held rfl (fun _ _ => nofun) retires (ordered ascending)

theorem receive_moves (reading : connection.phase = .reading) (frame : Bytes) :
    Move registry connection (connection.receive dispatcher registry frame).1
      (connection.receive dispatcher registry frame).2 := by
  have held : connection.phase.held? = none := by rw [reading]; rfl
  unfold receive
  split
  · exact .rest held.symm (fun _ _ => nofun) rfl
  · split
    · refine answer_moves held ?_ _
      exact .nil
    · exact .rest held.symm (fun _ _ => nofun) rfl

theorem step_moves (dispatcher : Dispatcher) (registry : Registry) (ordered : connection.phase.Ordered)
    (event : ConnectionEvent) :
    Move registry connection (connection.step dispatcher registry event).1
      (connection.step dispatcher registry event).2 := by
  unfold step
  split
  · next reading => exact receive_moves reading _
  · next reading => exact .rest (by rw [reading]; rfl) (fun _ _ => nofun) rfl
  · next reading => exact .rest (by rw [reading]; rfl) (fun _ _ => nofun) rfl
  · next request checks responds checking =>
    refine answer_moves (by rw [checking]; rfl) ?_ request
    rw [Registry.map_node_verdicts]
    exact ordered request checks checking
  · next reply action replying =>
    refine .rest ?_ ?_ rfl
    · rw [replying]
      cases action <;> rfl
    · cases action <;> exact fun _ _ => nofun
  · next reply action replying =>
    cases action with
    | holdRegistration name => exact .leave name (by rw [replying]; rfl) rfl registry (.inl rfl) rfl
    | close | shutdown => exact .rest (by rw [replying]; rfl) (fun _ _ => nofun) rfl
  · next name holding =>
    exact .close name (by rw [holding]; rfl) rfl rfl
  · next name holding =>
    exact .leave name (by rw [holding]; rfl) rfl _ (.inr rfl) rfl
  · exact .rest rfl (fun _ _ => id) rfl

/-- An event puts a new node into the table for a connection that had none, or retires nodes, perhaps after the
session was closed. The connection goes on to hold what it held then, unless it ends. -/
theorem Move.effect {after : Connection} {registry' : Registry} (move : Move registry connection after registry') :
    (∃ node, connection.phase.held? = none ∧ after.phase.held? = some node.name ∧
        (∀ holder, registry.find? node.name = some holder → registry.isOpen holder.session = false) ∧
        registry' = (registry.accept (registry.find? node.name) node connection.session).2) ∨
      ∃ (closed : Registry) (gone : List Node), closed.table = registry.table ∧ closed.history = registry.history ∧
        closed.Retires gone registry' ∧ Node.Ascending gone ∧
        (after.isFinished = false → after.phase.held? = connection.phase.held?) := by
  cases move with
  | rest held _ same =>
    rw [same]
    exact .inr ⟨registry, [], rfl, rfl, .none, .nil, fun _ => held⟩
  | answer nodes held holds _ retires ascending =>
    exact .inr ⟨registry, nodes, rfl, rfl, retires, ascending, fun _ => holds.trans held.symm⟩
  | register node held accepting stale accepted =>
    refine .inl ⟨node, held, ?_, stale, accepted⟩
    rw [accepting]
    rfl
  | close name held same closed =>
    rw [same, closed]
    exact .inr ⟨registry.close connection.session, [], rfl, rfl, .none, .nil, fun _ => rfl⟩
  | leave name held ended closed closing removed =>
    rw [removed]
    refine .inr ⟨closed, _, ?_, ?_, closed.removeSession_retires name _, Node.Ascending.toList _, ?_⟩
    · rcases closing with rfl | rfl <;> rfl
    · rcases closing with rfl | rfl <;> rfl
    · intro goesOn
      rw [isFinished, ended] at goesOn
      cases goesOn

theorem held?_of_isFinished (finished : connection.isFinished = true) : connection.phase.held? = none := by
  rw [isFinished, decide_eq_true_iff] at finished
  rw [finished]
  rfl

/-- Whoever is told that a registration is accepted has the name at that moment. -/
theorem Move.accepts {after : Connection} {registry' : Registry} (move : Move registry connection after registry')
    {creation : UInt16} {action : Action}
    (accepting : after.phase = .replying (RegistrationReply.accept creation).encode action)
    (new : after.phase ≠ connection.phase) :
    ∃ node, registry'.find? node.name = some ⟨node, creation, connection.session⟩ ∧
      action = .holdRegistration node.name := by
  cases move with
  | rest _ silent _ => exact absurd (accepting.trans (silent _ _ accepting).symm) new
  | answer _ _ _ refusing _ _ => exact absurd accepting (refusing creation action)
  | register node _ registered _ accepted =>
    rw [registered] at accepting
    injection accepting with reply held
    have read := congrArg RegistrationReply.decode reply
    rw [RegistrationReply.decode_encode, RegistrationReply.decode_encode] at read
    injection read with read
    injection read with _ drawn
    refine ⟨node, ?_, held.symm⟩
    rw [accepted, ← drawn]
    exact Registry.find?_accept_self _ _ _ _
  | close _ _ same _ => exact absurd (congrArg phase same) new
  | leave _ _ ended _ _ _ =>
    rw [ended] at accepting
    cases accepting

/-- A connection that holds a name leaves the nodes and the sessions of the others alone. -/
theorem Move.spares {after : Connection} {registry' : Registry} (move : Move registry connection after registry')
    {name : Text} (holds : connection.phase.held? = some name) {other : Node}
    (foreign : other.session.id ≠ connection.session.id) :
    (other ∈ registry'.table.nodes ↔ other ∈ registry.table.nodes) ∧
      registry'.isOpen other.session = registry.isOpen other.session := by
  cases move with
  | rest _ _ same =>
    rw [same]
    exact ⟨.rfl, rfl⟩
  | answer _ held _ _ _ _ | register _ held _ _ _ =>
    rw [held] at holds
    cases holds
  | close _ _ _ closed =>
    rw [closed]
    exact ⟨.rfl, Registry.isOpen_close foreign⟩
  | leave _ _ _ closed closing removed =>
    rw [removed, Registry.mem_removeSession foreign, Registry.isOpen_removeSession foreign]
    rcases closing with rfl | rfl
    · exact ⟨.rfl, rfl⟩
    · exact ⟨.rfl, Registry.isOpen_close foreign⟩

/-- A connection that held a name and has ended does not have the name. -/
theorem Move.ends {after : Connection} {registry' : Registry} (move : Move registry connection after registry')
    {name : Text} (holds : connection.phase.held? = some name) (finished : after.isFinished = true)
    {node : Node} (kept : node ∈ registry'.table.nodes) (named : node.name = name) :
    node.session.id ≠ connection.session.id := by
  cases move with
  | rest held _ _ =>
    rw [← held, held?_of_isFinished finished] at holds
    cases holds
  | answer _ held _ _ _ _ | register _ held _ _ _ =>
    rw [held] at holds
    cases holds
  | close _ _ same _ =>
    rw [same] at finished
    rw [held?_of_isFinished finished] at holds
    cases holds
  | leave name' held _ closed _ removed =>
    rw [held] at holds
    cases holds
    rw [removed] at kept
    exact Registry.session_ne_of_mem_removeSession kept named

/-! ## What an event leaves alone -/

theorem session_answer (verdicts : List Verdict) (request : Request) :
    (connection.answer dispatcher registry verdicts request).1.session = connection.session := by
  unfold answer
  split <;> rfl

theorem session_step (dispatcher : Dispatcher) (registry : Registry) (connection : Connection)
    (event : ConnectionEvent) :
    (connection.step dispatcher registry event).1.session = connection.session := by
  unfold step
  split
  case h_1 =>
    unfold receive
    split
    · rfl
    · split
      · exact session_answer _ _
      · rfl
  case h_4 => exact session_answer _ _
  case h_5 reply action _ => cases action <;> rfl
  all_goals rfl

theorem ordered_answer (verdicts : List Verdict) (request : Request) :
    (connection.answer dispatcher registry verdicts request).1.phase.Ordered := by
  unfold answer
  split <;> exact fun _ _ => nofun

theorem ordered_step (dispatcher : Dispatcher) (registry : Registry) (ordered : connection.phase.Ordered)
    (event : ConnectionEvent) :
    (connection.step dispatcher registry event).1.phase.Ordered := by
  unfold step
  split
  case h_1 =>
    unfold receive
    split
    · exact fun _ _ => nofun
    · split
      · exact ordered_answer _ _
      · rintro request checks ⟨⟩
        rw [Registry.map_node_checks]
        exact Dispatcher.toCheck_ascending _ _
  case h_4 => exact ordered_answer _ _
  case h_5 reply action _ => cases action <;> exact fun _ _ => nofun
  case h_7 | h_9 => exact ordered
  all_goals exact fun _ _ => nofun

end Connection

end PortMapper
