import PortMapper.Proofs.Client.Replies
import PortMapper.Proofs.Daemon.Conversation
import PortMapper.Proofs.Reply.NodeInfo
import PortMapper.Proofs.Traffic.Answering

/-!
# The client sees the registry's own answers

The frame of a request reaches the daemon in whatever chunks, is read, answered and replied to
(`Transport.serve_of_answered`). The reply comes back in whatever chunks, and the client takes from it what the registry
gave: of four bytes of a registration that the daemon keeps, and of all bytes of a reply after which it closes. So each
call of a client has the result and the effect of one operation of the registry (`client_sees_the_registry`).
-/

namespace PortMapper

variable {dispatcher : Dispatcher} {answers : SocketAddress → Bool} {registry after : Registry} {session : Session}
  {request : Request} {frame reply : Bytes} {action : Action}

/-! ## The daemon's side -/

namespace Connection

/-- A connection whose request has been answered does not wait for checks. -/
theorem checked_of_answer (verdicts : List Verdict) (request : Request) (responds : Node → Bool)
    (later : Registry) :
    ((accept session).answer dispatcher registry verdicts request).1.step dispatcher later (.checked responds) =
      (((accept session).answer dispatcher registry verdicts request).1, later) := by
  unfold answer
  split <;> rfl

/-- A request is answered as soon as the nodes to be checked for it have responded or not. -/
theorem checked_of_receive (decoded : Request.decode frame = .ok request) (responds : Node → Bool) :
    ((accept session).receive dispatcher registry frame).1.step dispatcher
        ((accept session).receive dispatcher registry frame).2 (.checked responds) =
      (accept session).answer dispatcher registry
        ((registry.checks (Dispatcher.toCheck registry request)).map (·.verdict responds)) request := by
  simp only [receive, decoded]
  cases checks : registry.checks (Dispatcher.toCheck registry request) with
  | nil => exact checked_of_answer [] request responds _
  | cons check checks => rfl

/-- What a connection writes and does after an exchange is what the dispatcher answers to the first frame. -/
theorem exchange_of_answered {stream : Stream} (whole : Frame.Whole frame) (front : frame <+: stream.arriving)
    (decoded : Request.decode frame = .ok request)
    (answered : dispatcher.dispatch answers registry session request = (.ok (reply, action), after)) :
    exchange dispatcher answers registry session stream = ((accept session).replied reply action, after) := by
  have read : exchangeEvents answers stream = _ :=
    (exchangeEvents_eq answers stream).trans (requestEvents_of_arriving _ whole front)
  have replying : (accept session).answer dispatcher registry
      (registry.verdicts answers (Dispatcher.toCheck registry request)) request =
        (⟨session, .replying reply action, []⟩, after) := by
    unfold answer
    rw [show dispatcher.answer registry (accept session).session _ request = _ from answered]
    rfl
  calc exchange dispatcher answers registry session stream
    _ = (accept session).run dispatcher registry
        [.read (.ok frame), .checked fun node => answers node.probeAddress, .written] := by rw [exchange, read]
    _ = ((accept session).answer dispatcher registry
          (registry.verdicts answers (Dispatcher.toCheck registry request)) request).1.step dispatcher
        ((accept session).answer dispatcher registry
          (registry.verdicts answers (Dispatcher.toCheck registry request)) request).2 .written := by
      rw [Registry.verdicts, ← checked_of_receive decoded]
      rfl
    _ = ((accept session).replied reply action, after) := by
      rw [replying]
      rfl

end Connection

/-! ## The way between -/

/-- A way to the daemon and back that loses nothing and keeps the order. -/
structure Transport where
  /-- In which chunks the bytes that a client sends arrive. -/
  deliver : Bytes → Stream
  complete : ∀ bytes, (deliver bytes).arriving = bytes
  /-- In which chunks the bytes that the daemon sends come back. -/
  back : Bytes → Stream
  back_orderly : ∀ bytes, (back bytes).Orderly
  back_complete : ∀ bytes, (back bytes).unread = bytes

/-- Whether the daemon closes after a reply. It keeps the connection if it holds a registration. -/
def Action.closes : Action → Bool
  | .holdRegistration _ => false
  | .close | .shutdown => true

namespace Transport

/-- What a client gets when the daemon sends these bytes. -/
def returned (transport : Transport) (reply : Bytes) (closes : Bool) : Exchange :=
  .replied ⟨transport.back reply, closes, fun chunk member => (transport.back_orderly reply chunk member).ne_empty⟩

/-- What a client gets for a frame, and the registry then, if nothing takes too long and nothing else happens
meanwhile. -/
def serve (transport : Transport) (dispatcher : Dispatcher) (answers : SocketAddress → Bool)
    (registry : Registry) (session : Session) (frame : Bytes) : Exchange × Registry :=
  let (connection, registry) :=
    Connection.exchange dispatcher answers registry session (transport.deliver frame)
  (transport.returned connection.written connection.isFinished, registry)

/-- How frames fare that are sent to a daemon. -/
def network (transport : Transport) (dispatcher : Dispatcher) (answers : SocketAddress → Bool)
    (registry : Registry) (session : Session) : Network :=
  fun frame => (transport.serve dispatcher answers registry session frame).1

variable {transport : Transport}

/-- The daemon replies with what its dispatcher answers to the request that was written. -/
theorem serve_of_answered (wrote : request.encode = .ok frame)
    (answered : dispatcher.dispatch answers registry session request.normalise = (.ok (reply, action), after)) :
    transport.serve dispatcher answers registry session frame = (transport.returned reply action.closes, after) := by
  have front : frame <+: (transport.deliver frame).arriving :=
    ⟨[], (List.append_nil frame).trans (transport.complete frame).symm⟩
  have exchange := Connection.exchange_of_answered (Frame.whole_of_encode wrote) front
    (Request.decode_of_encode wrote) answered
  rw [serve, exchange]
  cases action <;> rfl

/-! ## The client's side -/

variable {client : Client}

/-- A call reads the reply behind which the daemon closes. -/
theorem ask_of_answered {α : Type} {decode : Bytes → Except WireError α} {value : α} (wrote : request.encode = .ok frame)
    (answered : dispatcher.dispatch answers registry session request.normalise = (.ok (reply, action), after))
    (closes : action.closes = true) (read : decode reply = .ok value) :
    client.ask request decode (transport.network dispatcher answers registry session) = ⟨some frame, .ok value⟩ ∧
      (transport.serve dispatcher answers registry session frame).2 = after := by
  have served : transport.serve dispatcher answers registry session frame = _ := serve_of_answered wrote answered
  have comes : (transport.network dispatcher answers registry session frame).Closes reply := by
    rw [network, served, closes]
    exact ⟨rfl, transport.back_orderly reply, transport.back_complete reply⟩
  rw [Client.ask_of_closes wrote comes, read, served]
  exact ⟨rfl, rfl⟩

/-- A registration reads four bytes, whether or not the daemon closes then. -/
theorem requestRegistration_of_answered {node : NodeDescription} {answer : RegistrationReply}
    (wrote : (Request.registration node).encode = .ok frame)
    (answered : dispatcher.dispatch answers registry session (.registration node.normalise) =
      (.ok (answer.encode, action), after)) :
    client.requestRegistration node (transport.network dispatcher answers registry session) =
        ⟨some frame, if answer.accepted then .ok answer.creation else .error (.refused node.name)⟩ ∧
      (transport.serve dispatcher answers registry session frame).2 = after := by
  have served : transport.serve dispatcher answers registry session frame = _ := serve_of_answered wrote answered
  have replied : transport.network dispatcher answers registry session frame = _ := congrArg Prod.fst served
  have whole : (transport.back answer.encode).unread = answer.encode := transport.back_complete _
  have enough : RegistrationReply.wireLength ≤ (transport.back answer.encode).unread.length := by
    rw [whole]
    exact Nat.le_refl 4
  rw [Client.requestRegistration_of_completes wrote replied (transport.back_orderly _) (.inr enough), whole,
    List.take_of_length_le (Nat.le_refl 4), RegistrationReply.outcome, answer.decode_encode, served]
  exact ⟨rfl, rfl⟩

end Transport

/-! ## Calls and operations -/

/-- What a client makes of the registry's answer to a registration. -/
def RegisterOutcome.seen (name : Text) : RegisterOutcome → Except ClientError UInt16
  | registered creation => .ok creation
  | conflict => .error (.refused name)

namespace Registry

/-- A node that has been registered is under its name. -/
theorem find?_of_registered {node : NodeDescription} {creation : UInt16}
    (registered : (registry.register node session).1 = .registered creation) :
    (registry.register node session).2.find? node.name = some ⟨node, creation, session⟩ := by
  rcases registry.register_cases node session with ⟨_, refused⟩ | ⟨_, accepted⟩
  · rw [refused] at registered
    cases registered
  · rw [accepted] at registered ⊢
    cases registered
    exact registry.find?_accept_self _ node session

theorem nodes_clear (registry : Registry) : registry.clear.2.table.nodes = [] := by
  rw [registry.clear_retires.nodes_eq_filter]
  simp

/-- The node of a name that is alive is registered under it. -/
theorem find?_of_lookup {name : Text} {node : Node} (found : (registry.lookup answers name).1 = some node) :
    registry.find? name = some node := by
  have live : (registry.lookup answers name).1 =
      ((registry.find? name).toList.filter (registry.isAlive answers)).head? :=
    congrArg List.head? (registry.map_filter_checks _ (fun node => answers node.probeAddress) id)
  rw [live] at found
  exact Option.mem_toList.mp (List.mem_filter.mp (List.mem_of_head? found)).1

end Registry

/-- What came in a frame has each code under its name. -/
theorem Node.Framed.normalise {node : Node} (framed : node.Framed) :
    node.description.normalise = node.description := by
  obtain ⟨frame, decoded⟩ := framed
  exact Request.registration.inj (Request.decode_ok.mp decoded).2

namespace Transport

section Operations

variable (transport : Transport) (client : Client) (dispatcher : Dispatcher) (answers : SocketAddress → Bool)
  (registry : Registry) (session : Session) {name : Text} {node : NodeDescription}

theorem register_seen (free : client.isRegistered node.name = false)
    (wrote : (Request.registration node).encode = .ok frame) :
    (client.register node (transport.network dispatcher answers registry session)).1 =
        ⟨some frame, (registry.register node.normalise session).1.seen node.name⟩ ∧
      (transport.serve dispatcher answers registry session frame).2 =
        (registry.register node.normalise session).2 := by
  have asks : (client.register node (transport.network dispatcher answers registry session)).1 =
      client.requestRegistration node (transport.network dispatcher answers registry session) := by
    rw [Client.register, free]
    simp only [Bool.false_eq_true, if_false]
    split <;> rfl
  rw [asks]
  rcases registered : registry.register node.normalise session with ⟨outcome, after⟩
  cases outcome with
  | registered creation =>
    have answered : dispatcher.dispatch answers registry session (.registration node.normalise) =
        (.ok ((RegistrationReply.accept creation).encode, .holdRegistration node.name), after) := by
      simp only [Dispatcher.dispatch, Dispatcher.answer, registered]
      rfl
    exact requestRegistration_of_answered wrote answered
  | conflict =>
    have answered : dispatcher.dispatch answers registry session (.registration node.normalise) =
        (.ok (RegistrationReply.refuse.encode, .close), after) := by
      simp only [Dispatcher.dispatch, Dispatcher.answer, registered]
    exact requestRegistration_of_answered wrote answered

theorem lookup_seen (framed : registry.Framed) (wrote : (Request.nodeInfo name).encode = .ok frame) :
    client.lookup name (transport.network dispatcher answers registry session) =
        ⟨some frame, .ok (.ofDescription? ((registry.lookup answers name).1.map (·.description)))⟩ ∧
      (transport.serve dispatcher answers registry session frame).2 = (registry.lookup answers name).2 := by
  have came : ∀ node ∈ (registry.lookup answers name).1, node.Framed := fun node found =>
    framed.nodes node (Registry.find?_eq_some_iff.mp (Registry.find?_of_lookup found)).1
  obtain ⟨reply, written⟩ := Dispatcher.exists_nodeInfo came
  have read := NodeInfo.decode_encode written
  have named : (NodeInfo.ofDescription? ((registry.lookup answers name).1.map (·.description))).normalise =
      .ofDescription? ((registry.lookup answers name).1.map (·.description)) := by
    cases found : (registry.lookup answers name).1 with
    | none => rfl
    | some node => exact congrArg NodeInfo.found (came node found).normalise
  rw [named] at read
  have answered : dispatcher.dispatch answers registry session (.nodeInfo name) =
      (.ok (reply, .close), (registry.lookup answers name).2) :=
    Prod.ext (congrArg (Except.map (·, Action.close)) written) rfl
  exact ask_of_answered wrote answered rfl read

theorem stop_seen (wrote : (Request.stop name).encode = .ok frame) :
    client.stop name (transport.network dispatcher answers registry session) =
        ⟨some frame, .ok (if dispatcher.relaxed && (registry.remove name).1.isSome then .stopped
          else .notThere)⟩ ∧
      (transport.serve dispatcher answers registry session frame).2 =
        (if dispatcher.relaxed then (registry.remove name).2 else registry) := by
  have answered : dispatcher.dispatch answers registry session (.stop name) =
      (.ok ((if dispatcher.relaxed && (registry.remove name).1.isSome then StopReply.stopped
          else .notThere).encode, .close),
        if dispatcher.relaxed then (registry.remove name).2 else registry) := by
    simp only [Dispatcher.dispatch, Dispatcher.answer]
    cases dispatcher.relaxed with
    | false => rfl
    | true =>
      obtain ⟨removed, after⟩ := registry.remove name
      cases removed <;> rfl
  exact ask_of_answered wrote answered rfl (StopReply.decode_encode _)

theorem kill_seen (wrote : Request.kill.encode = .ok frame) :
    client.kill (transport.network dispatcher answers registry session) =
        ⟨some frame, .ok (if dispatcher.relaxed then .ok else .notOk)⟩ ∧
      (transport.serve dispatcher answers registry session frame).2 =
        (if dispatcher.relaxed then registry.clear.2 else registry) := by
  have answered : dispatcher.dispatch answers registry session .kill =
      (.ok ((if dispatcher.relaxed then KillReply.ok else .notOk).encode,
          if dispatcher.relaxed then .shutdown else .close),
        if dispatcher.relaxed then registry.clear.2 else registry) := by
    simp only [Dispatcher.dispatch, Dispatcher.answer]
    cases dispatcher.relaxed <;> rfl
  refine ask_of_answered wrote answered ?_ (KillReply.decode_encode _)
  cases dispatcher.relaxed <;> rfl

theorem register_agrees (free : client.isRegistered node.name = false)
    (wrote : (Request.registration node).encode = .ok frame) :
    let call := (client.register node (transport.network dispatcher answers registry session)).1
    let after := (transport.serve dispatcher answers registry session frame).2
    let registered := registry.register node.normalise session
    call.sent = some frame ∧ after = registered.2 ∧
      (∀ creation, call.result = .ok creation ↔ registered.1 = .registered creation ∧
        after.find? node.name = some ⟨node.normalise, creation, session⟩) ∧
      (call.result = .error (.refused node.name) ↔ registered.1 = .conflict) := by
  intro call after registered
  obtain ⟨seen, effect⟩ := transport.register_seen client dispatcher answers registry session free wrote
  have called : call = ⟨some frame, registered.1.seen node.name⟩ := seen
  have stored : ∀ creation, registered.1 = .registered creation →
      after.find? node.name = some ⟨node.normalise, creation, session⟩ := fun creation accepted => by
    rw [show after = registered.2 from effect]
    exact Registry.find?_of_registered accepted
  rw [called]
  refine ⟨rfl, effect, fun creation => ?_, ?_⟩
  · rw [and_iff_left_of_imp (stored creation)]
    cases registered.1 <;> simp [RegisterOutcome.seen]
  · cases registered.1 <;> simp [RegisterOutcome.seen]

theorem lookup_agrees (framed : registry.Framed) (wrote : (Request.nodeInfo name).encode = .ok frame) :
    let call := client.lookup name (transport.network dispatcher answers registry session)
    let found := registry.lookup answers name
    call.sent = some frame ∧ (transport.serve dispatcher answers registry session frame).2 = found.2 ∧
      (∀ description, call.result = .ok (.found description) ↔
        ∃ node, found.1 = some node ∧ node.description = description) ∧
      (call.result = .ok .notFound ↔ found.1 = none) := by
  intro call found
  obtain ⟨seen, effect⟩ := transport.lookup_seen client dispatcher answers registry session framed wrote
  have called : call = ⟨some frame, .ok (.ofDescription? (found.1.map (·.description)))⟩ := seen
  rw [called]
  refine ⟨rfl, effect, fun description => ?_, ?_⟩ <;> cases found.1 <;> simp [NodeInfo.ofDescription?]

theorem stop_agrees (wrote : (Request.stop name).encode = .ok frame) :
    let call := client.stop name (transport.network dispatcher answers registry session)
    let removed := registry.remove name
    call.sent = some frame ∧
      (transport.serve dispatcher answers registry session frame).2 =
        (if dispatcher.relaxed then removed.2 else registry) ∧
      (call.result = .ok .stopped ↔ dispatcher.relaxed = true ∧ ∃ node, removed.1 = some node) ∧
      (call.result = .ok .notThere ↔ dispatcher.relaxed = false ∨ removed.1 = none) := by
  intro call removed
  obtain ⟨seen, effect⟩ := transport.stop_seen client dispatcher answers registry session wrote
  have called : call =
      ⟨some frame, .ok (if dispatcher.relaxed && removed.1.isSome then .stopped else .notThere)⟩ := seen
  rw [called]
  refine ⟨rfl, effect, ?_, ?_⟩ <;> cases dispatcher.relaxed <;> cases removed.1 <;> simp

theorem kill_agrees (wrote : Request.kill.encode = .ok frame) :
    let call := client.kill (transport.network dispatcher answers registry session)
    let after := (transport.serve dispatcher answers registry session frame).2
    call.sent = some frame ∧ after = (if dispatcher.relaxed then registry.clear.2 else registry) ∧
      (call.result = .ok .ok ↔ dispatcher.relaxed = true) ∧
      (call.result = .ok .notOk ↔ dispatcher.relaxed = false) ∧
      (dispatcher.relaxed = true → after.table.nodes = []) := by
  intro call after
  obtain ⟨seen, effect⟩ := transport.kill_seen client dispatcher answers registry session wrote
  have called : call = ⟨some frame, .ok (if dispatcher.relaxed then .ok else .notOk)⟩ := seen
  rw [called]
  refine ⟨rfl, effect, ?_, ?_, fun relaxed => ?_⟩
  · cases dispatcher.relaxed <;> simp
  · cases dispatcher.relaxed <;> simp
  · rw [show after = _ from effect, relaxed]
    exact registry.nodes_clear

end Operations

/-! ## What a client sees -/

/-- Over any transport, and on any registry that frames can bring about, a call of a client sends the frame of its
request, and its result and effect are those of one operation of the registry. A registration is refused exactly if
there is a conflict, and otherwise gives the creation number under which the description is stored, each code
under its name. A lookup finds exactly the description of the node that the registry finds, a stop stops exactly
what the registry removes, and a kill empties the registry, both only if they are obeyed. -/
theorem client_sees_the_registry {traffic : OverlappingTraffic} (reachable : traffic.Reachable dispatcher)
    (transport : Transport) (answers : SocketAddress → Bool) (session : Session) (client : Client) :
    let registry := traffic.registry
    let network := transport.network dispatcher answers registry session
    let after := fun frame => (transport.serve dispatcher answers registry session frame).2
    (∀ node frame, client.isRegistered node.name = false → (Request.registration node).encode = .ok frame →
      let call := (client.register node network).1
      let registered := registry.register node.normalise session
      call.sent = some frame ∧ after frame = registered.2 ∧
      (∀ creation, call.result = .ok creation ↔ registered.1 = .registered creation ∧
        (after frame).find? node.name = some ⟨node.normalise, creation, session⟩) ∧
      (call.result = .error (.refused node.name) ↔ registered.1 = .conflict)) ∧
    (∀ name frame, (Request.nodeInfo name).encode = .ok frame →
      let call := client.lookup name network
      let found := registry.lookup answers name
      call.sent = some frame ∧ after frame = found.2 ∧
      (∀ description, call.result = .ok (.found description) ↔
        ∃ node, found.1 = some node ∧ node.description = description) ∧
      (call.result = .ok .notFound ↔ found.1 = none)) ∧
    (∀ name frame, (Request.stop name).encode = .ok frame →
      let call := client.stop name network
      let removed := registry.remove name
      call.sent = some frame ∧ after frame = (if dispatcher.relaxed then removed.2 else registry) ∧
      (call.result = .ok .stopped ↔ dispatcher.relaxed = true ∧ ∃ node, removed.1 = some node) ∧
      (call.result = .ok .notThere ↔ dispatcher.relaxed = false ∨ removed.1 = none)) ∧
    (∀ frame, Request.kill.encode = .ok frame →
      let call := client.kill network
      call.sent = some frame ∧ after frame = (if dispatcher.relaxed then registry.clear.2 else registry) ∧
      (call.result = .ok .ok ↔ dispatcher.relaxed = true) ∧
      (call.result = .ok .notOk ↔ dispatcher.relaxed = false) ∧
      (dispatcher.relaxed = true → (after frame).table.nodes = [])) := by
  refine ⟨?_, ?_, ?_, ?_⟩
  · intro node frame free wrote
    exact register_agrees transport client dispatcher answers traffic.registry session free wrote
  · intro name frame wrote
    exact lookup_agrees transport client dispatcher answers traffic.registry session reachable.framed.registry wrote
  · intro name frame wrote
    exact stop_agrees transport client dispatcher answers traffic.registry session wrote
  · intro frame wrote
    exact kill_agrees transport client dispatcher answers traffic.registry session wrote

/-- Each byte comes alone, on the way back after a wait. -/
def bytewise : Transport where
  deliver bytes := bytes.map fun byte => .data [byte]
  complete bytes := by
    induction bytes with
    | nil => rfl
    | cons byte bytes ih => exact congrArg (byte :: ·) ih
  back bytes := bytes.flatMap fun byte => [.pending, .data [byte]]
  back_orderly bytes := by
    refine List.forall_mem_flatMap.mpr fun byte _ => List.forall_mem_cons.mpr ⟨trivial, ?_⟩
    exact List.forall_mem_singleton.mpr (List.cons_ne_nil byte [])
  back_complete bytes := by
    induction bytes with
    | nil => rfl
    | cons byte bytes ih => exact congrArg (byte :: ·) ih

/-- A node registers and its connection stays open. -/
def tenancy : List OverlappingEvent :=
  [.openSession ⟨.loopback, 40000, 0⟩, .frame 1 [0, 14, 120, 0, 9, 110, 0, 0, 5, 0, 5, 0, 1, 97, 0, 0],
    .answer 0 fun _ => true]

/-- The name is taken, is found, and is stopped and killed where that is allowed; another node is stored with
its type under its name. -/
theorem client_sees_the_registry_of_tenancy :
    ∃ traffic, (OverlappingTraffic.start 1).run ⟨true, 4369⟩ tenancy = some traffic ∧
      let session : Session := ⟨2, .loopback, 40001, 0⟩
      let network := bytewise.network ⟨true, 4369⟩ (fun _ => true) traffic.registry session
      let client : Client := ⟨{}, []⟩
      let guest : NodeDescription := { port := 10, nodeType := .unknown 77, name := ['b'] }
      (client.register { port := 10, name := ['a'] } network).1.result = .error (.refused ['a']) ∧
      (client.register guest network).1.result = .ok 2 ∧
      ((traffic.registry.register guest.normalise session).2.find? ['b']).map (·.description.nodeType) =
        some .r3Erlang ∧
      (client.lookup ['a'] network).result = .ok (.found { port := 9, name := ['a'] }) ∧
      (client.stop ['a'] network).result = .ok .stopped ∧ (client.kill network).result = .ok .ok := by
  let traffic := ((OverlappingTraffic.start 1).run ⟨true, 4369⟩ tenancy).get (by decide)
  have ran : (OverlappingTraffic.start 1).run ⟨true, 4369⟩ tenancy = some traffic := (Option.some_get _).symm
  refine ⟨traffic, ran, ?_⟩
  intro session network client guest
  dsimp only [network]
  obtain ⟨registers, looks, stops, kills⟩ := client_sees_the_registry (OverlappingTraffic.reachable_of_run ran)
    bytewise (fun _ => true) session client
  obtain ⟨_, _, _, refused⟩ := registers { port := 10, name := ['a'] } _ rfl rfl
  obtain ⟨_, effect, accepted, _⟩ := registers guest _ rfl rfl
  obtain ⟨_, _, found, _⟩ := looks ['a'] _ rfl
  obtain ⟨_, _, stopped, _⟩ := stops ['a'] _ rfl
  obtain ⟨_, _, killed, _⟩ := kills _ rfl
  let tenant : Node := ⟨{ port := 9, name := ['a'] }, 1, ⟨1, .loopback, 40000, 0⟩⟩
  have taken : (traffic.registry.register { port := 10, name := ['a'] } session).1 = .conflict := by decide
  have numbered : (traffic.registry.register guest.normalise session).1 = .registered 2 := by decide
  have stored : (traffic.registry.register guest.normalise session).2.find? ['b'] =
      some ⟨guest.normalise, 2, session⟩ := Registry.find?_of_registered numbered
  have alive : (traffic.registry.lookup (fun _ => true) ['a']).1 = some tenant := by decide
  have removed : (traffic.registry.remove ['a']).1 = some tenant := by decide
  rw [effect] at accepted
  refine ⟨refused.mpr taken, (accepted 2).mpr ⟨numbered, stored⟩, ?_, (found _).mpr ⟨tenant, alive, rfl⟩,
    stopped.mpr ⟨rfl, tenant, removed⟩, killed.mpr rfl⟩
  rw [stored]
  rfl

end Transport

end PortMapper
