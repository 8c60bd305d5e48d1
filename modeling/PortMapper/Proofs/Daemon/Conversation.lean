import PortMapper.Daemon.Conversation
import PortMapper.Proofs.Frame.Stream

/-!
# Only the first frame counts

What arrives on a stream does not depend on its chunks (`Stream.arriving`), and the first frame in it is the one
that is read (`Frame.readFrom_of_arriving`). What follows is read only while a registration is held, and then it
is dropped (`Connection.flatMap_heard_reads`). So two streams with the same first frame make the same
conversation, and a stream that has none, or none that is a request, changes nothing
(`Connection.only_the_first_frame_counts`).
-/

namespace PortMapper

/-! ## What arrives -/

namespace Stream

variable {stream left : Stream} {count : Nat} {bytes : Bytes}

/-- The bytes that come before the stream ends or fails, or a read of it comes back without bytes. -/
def arriving : Stream → Bytes
  | .data (byte :: bytes) :: rest => byte :: bytes ++ arriving rest
  | .pending :: rest => arriving rest
  | _ => []

theorem arriving_data (brings : bytes ≠ []) (rest : Stream) :
    arriving (.data bytes :: rest) = bytes ++ arriving rest := by
  cases bytes with
  | nil => exact absurd rfl brings
  | cons byte bytes => rfl

/-- Filling takes the first bytes that arrive, and if there are enough of them the others arrive later. It fails
only if there are not enough. -/
theorem fill_cases (count : Nat) (stream : Stream) :
    (∃ left, stream.fill count = (.ok (stream.arriving.take count), left) ∧
        (count ≤ stream.arriving.length → left.arriving = stream.arriving.drop count)) ∨
      (stream.arriving.length < count ∧ ∃ cause left, stream.fill count = (.error cause, left)) := by
  fun_induction fill count stream with
  | case1 stream => exact .inl ⟨stream, rfl, fun _ => rfl⟩
  | case2 count => exact .inl ⟨[], rfl, fun enough => absurd enough (Nat.not_succ_le_zero count)⟩
  | case3 count rest ih => exact ih
  | case4 count cause rest => exact .inr ⟨Nat.zero_lt_succ count, cause, rest, rfl⟩
  | case5 count bytes rest empty =>
    rw [List.isEmpty_iff.mp empty]
    exact .inl ⟨rest, rfl, fun enough => absurd enough (Nat.not_succ_le_zero count)⟩
  | case6 count bytes rest nonempty fits more left filled ih =>
    rw [arriving_data (mt List.isEmpty_iff.mpr nonempty), List.length_append, List.take_append,
      List.drop_append, List.take_of_length_le fits, List.drop_eq_nil_of_le fits]
    rcases ih with ⟨_, same, remains⟩ | ⟨missing, cause, _, same⟩
    · cases filled.symm.trans same
      exact .inl ⟨left, rfl, fun enough => remains (by omega)⟩
    · cases filled.symm.trans same
      exact .inr ⟨by omega, cause, left, rfl⟩
  | case7 count bytes rest nonempty longer =>
    have enough := Nat.le_of_lt (Nat.lt_of_not_le longer)
    have remains : bytes.drop (count + 1) ≠ [] := by
      rw [ne_eq, List.drop_eq_nil_iff]
      exact longer
    rw [arriving_data (mt List.isEmpty_iff.mpr nonempty), List.take_append_of_le_length enough,
      List.drop_append_of_le_length enough]
    exact .inl ⟨_, rfl, fun _ => arriving_data remains rest⟩

theorem fill_of_le (enough : count ≤ stream.arriving.length) :
    ∃ left, stream.fill count = (.ok (stream.arriving.take count), left) ∧
      left.arriving = stream.arriving.drop count := by
  rcases fill_cases count stream with ⟨left, filled, remains⟩ | ⟨missing, _⟩
  · exact ⟨left, filled, remains enough⟩
  · exact absurd enough (Nat.not_le_of_lt missing)

theorem fill_of_lt (missing : stream.arriving.length < count)
    (filled : stream.fill count = (.ok bytes, left)) : bytes = stream.arriving := by
  rcases fill_cases count stream with ⟨_, same, _⟩ | ⟨_, _, _, same⟩
  · cases filled.symm.trans same
    exact List.take_of_length_le (Nat.le_of_lt missing)
  · cases filled.symm.trans same

end Stream

namespace Frame

variable {stream : Stream} {frame other : Bytes}

/-- The first frame that arrives is read, whatever comes later. -/
theorem readFrom_of_arriving (whole : Whole frame) (front : frame <+: stream.arriving) :
    ∃ left, readFrom stream = (.ok frame, left) := by
  obtain ⟨high, low, body, rfl, declared⟩ := whole
  obtain ⟨rest, bytes⟩ := front
  have enough : prefixLength ≤ stream.arriving.length := by
    rw [← bytes, prefixLength, List.cons_append, List.cons_append, List.length_cons, List.length_cons]
    omega
  obtain ⟨middle, lengthField, remains⟩ := Stream.fill_of_le enough
  rw [← bytes] at lengthField remains
  have behind : middle.arriving = body ++ rest := remains
  have enough : body.length ≤ middle.arriving.length := by
    rw [behind, List.length_append]
    exact Nat.le_add_right _ _
  obtain ⟨left, filled, _⟩ := Stream.fill_of_le enough
  rw [behind, List.take_left] at filled
  refine ⟨left, ?_⟩
  unfold readFrom
  rw [lengthField]
  show readBody [high, low] (BigEndian.toUInt16 high low).toNat middle = (.ok (high :: low :: body), left)
  rw [readBody, declared, filled]
  exact if_neg (Nat.lt_irrefl _)

/-- If no frame arrives, none is read. -/
theorem readFrom_of_arriving_short (short : Short stream.arriving) :
    ∃ error left, readFrom stream = (.error error, left) := by
  unfold readFrom
  split
  · exact ⟨_, _, rfl⟩
  · exact ⟨_, _, rfl⟩
  · next high low middle lengthField =>
    rcases Nat.lt_or_ge stream.arriving.length prefixLength with missing | enough
    · have few := congrArg List.length (Stream.fill_of_lt missing lengthField)
      exact absurd missing (by rw [← few]; exact Nat.lt_irrefl _)
    · obtain ⟨_, same, remains⟩ := Stream.fill_of_le enough
      obtain ⟨field, rfl⟩ := Prod.mk.inj (lengthField.symm.trans same)
      have bytes : stream.arriving = high :: low :: middle.arriving := by
        calc stream.arriving
          _ = stream.arriving.take prefixLength ++ stream.arriving.drop prefixLength :=
            (List.take_append_drop _ _).symm
          _ = high :: low :: middle.arriving := by rw [← Except.ok.inj field, remains]; rfl
      have missing := short high low middle.arriving bytes
      unfold readBody
      split
      · exact ⟨_, _, rfl⟩
      · next body left filled =>
        rw [Stream.fill_of_lt missing filled, if_pos missing]
        exact ⟨_, _, rfl⟩
  · exact ⟨_, _, rfl⟩

end Frame

/-- No frame is complete in the bytes that arrive, or the first one is not a request. -/
def Stream.BringsNoRequest (stream : Stream) : Prop :=
  Frame.Short stream.arriving ∨
    ∃ frame error, Frame.Whole frame ∧ frame <+: stream.arriving ∧ Request.decode frame = .error error

theorem Stream.BringsNoRequest.decode_ne {stream : Stream} (none : stream.BringsNoRequest) (frame : Bytes)
    (request : Request) (read : (Frame.readFrom stream).1 = .ok frame) : Request.decode frame ≠ .ok request := by
  intro decoded
  rcases none with short | ⟨first, error, whole, front, failed⟩
  · obtain ⟨_, _, broken⟩ := Frame.readFrom_of_arriving_short short
    rw [broken] at read
    cases read
  · obtain ⟨_, same⟩ := Frame.readFrom_of_arriving whole front
    rw [same] at read
    cases read
    rw [failed] at decoded
    cases decoded

/-! ## While a registration is held -/

namespace Connection

variable {stream : Stream} {frame : Bytes} {connection : Connection} {events : List ConnectionEvent}

/-- Whatever is read while a registration is held, the registration is over when the stream is. -/
theorem flatMap_heard_reads (stream : Stream) : stream.reads.flatMap heard = [.closing, .released] := by
  fun_induction Stream.reads stream with
  | case1 stream byte bytes left took fewer ih =>
    rw [List.flatMap_cons, ih]
    rfl
  | case2 stream last left nothing took =>
    rcases last with cause | _ | ⟨byte, bytes⟩
    · rfl
    · rfl
    · exact absurd rfl (nothing byte bytes)

theorem conversation_eq (responds : Node → Bool) (stream : Stream) :
    conversation responds stream = requestEvents responds stream ++ [.closing, .released] := by
  rw [conversation, flatMap_heard_reads]

theorem runAmong_append (others : Others) (dispatcher : Dispatcher) (registry : Registry) (connection : Connection)
    (first second : List ConnectionEvent) :
    connection.runAmong others dispatcher registry (first ++ second) =
      (connection.runAmong others dispatcher registry first).1.runAmong others dispatcher
        (connection.runAmong others dispatcher registry first).2 second :=
  List.foldl_append

/-- A registration whose session has been closed ends as any other. -/
theorem released_of_closing (dispatcher : Dispatcher) (registry : Registry) (connection : Connection) :
    connection.run dispatcher registry [.closing, .released] = connection.run dispatcher registry [.released] := by
  obtain ⟨session, phase, written⟩ := connection
  cases phase with
  | holding name =>
    have twice : (registry.closed.close session.id).close session.id = registry.closed.close session.id :=
      if_pos (List.contains_iff_mem.mpr (ClosedSessions.mem_close.mpr (.inl rfl)))
    have same : (registry.close session).close session = registry.close session :=
      congrArg (fun closed => { registry with closed }) twice
    exact congrArg (fun closed : Registry => (finish _, (closed.removeSession name session.id).2)) same
  | reading | checking | replying | finished => rfl

/-- Without others a conversation is the same as an exchange until its end. -/
theorem exchangeToEnd_eq (dispatcher : Dispatcher) (answers : SocketAddress → Bool) (registry : Registry)
    (session : Session) (stream : Stream) :
    exchangeToEnd dispatcher answers registry session stream =
      (accept session).runAmong (fun _ => id) dispatcher registry
        (conversation (fun node => answers node.probeAddress) stream) := by
  rw [conversation_eq, runAmong_append]
  calc exchangeToEnd dispatcher answers registry session stream
    _ = (exchange dispatcher answers registry session stream).1.run dispatcher
        (exchange dispatcher answers registry session stream).2 [.released] := List.foldl_append
    _ = _ := (released_of_closing _ _ _).symm

/-! ## What a connection makes of its first frame -/

theorem requestEvents_of_arriving (responds : Node → Bool) (whole : Frame.Whole frame)
    (front : frame <+: stream.arriving) :
    requestEvents responds stream = [.read (.ok frame), .checked responds, .written] := by
  obtain ⟨left, read⟩ := Frame.readFrom_of_arriving whole front
  rw [requestEvents, read]

/-- A connection that has finished does nothing. -/
theorem runAmong_of_finished (finished : connection.phase = .finished) (others : Others)
    (dispatcher : Dispatcher) (registry : Registry) :
    connection.runAmong others dispatcher registry events = (connection, others.leave registry events) := by
  induction events generalizing registry with
  | nil => rfl
  | cons event events ih =>
    have still : connection.step dispatcher (others event registry) event =
        (connection, others event registry) := by
      unfold step
      rw [finished]
    calc connection.runAmong others dispatcher registry (event :: events)
      _ = (connection.step dispatcher (others event registry) event).1.runAmong others dispatcher
          (connection.step dispatcher (others event registry) event).2 events := rfl
      _ = (connection, others.leave registry (event :: events)) := by rw [still]; exact ih _

/-- Others that do nothing leave the registry as it is. -/
theorem leave_idle (registry : Registry) (events : List ConnectionEvent) :
    Others.leave (fun _ => id) registry events = registry := by
  induction events with
  | nil => rfl
  | cons event events ih => exact ih

/-- No request is read from the stream, so the connection finishes at once. -/
theorem runAmong_of_no_request (responds : Node → Bool)
    (none : ∀ frame request, (Frame.readFrom stream).1 = .ok frame → Request.decode frame ≠ .ok request)
    (others : Others) (dispatcher : Dispatcher) (registry : Registry) (session : Session)
    (later : List ConnectionEvent) :
    (accept session).runAmong others dispatcher registry (requestEvents responds stream ++ later) =
      (⟨session, .finished, []⟩, others.leave registry (requestEvents responds stream ++ later)) := by
  have finishes : (accept session).step dispatcher (others (.read (Frame.readFrom stream).1) registry)
      (.read (Frame.readFrom stream).1) =
        (⟨session, .finished, []⟩, others (.read (Frame.readFrom stream).1) registry) := by
    cases read : (Frame.readFrom stream).1 with
    | error error => rfl
    | ok frame =>
      cases decoded : Request.decode frame with
      | ok request => exact absurd decoded (none frame request read)
      | error error =>
        show (accept session).receive dispatcher _ frame = _
        rw [receive, decoded]
        rfl
  calc (accept session).runAmong others dispatcher registry (requestEvents responds stream ++ later)
    _ = ((accept session).step dispatcher (others (.read (Frame.readFrom stream).1) registry)
          (.read (Frame.readFrom stream).1)).1.runAmong others dispatcher
        ((accept session).step dispatcher (others (.read (Frame.readFrom stream).1) registry)
          (.read (Frame.readFrom stream).1)).2 ([.checked responds, .written] ++ later) := rfl
    _ = _ := by
      rw [finishes]
      exact runAmong_of_finished rfl others dispatcher _

/-! ## One request for each connection -/

/-- Two streams on which the same frame arrives first make the same of a connection and of the registry, up to the
reply and until the peer has hung up, whatever arrives after the frame, in whatever chunks, and whatever other
connections do meanwhile. If no frame arrives, or the first one is not a request, nothing is written and the
registry is left to the others; without them it stays as it is. -/
theorem only_the_first_frame_counts (dispatcher : Dispatcher) (registry : Registry) (session : Session)
    (responds : Node → Bool) (others : Others) :
    let after := (accept session).runAmong others dispatcher registry
    (∀ frame, Frame.Whole frame → ∀ first second : Stream, frame <+: first.arriving → frame <+: second.arriving →
      after (requestEvents responds first) = after (requestEvents responds second) ∧
      after (conversation responds first) = after (conversation responds second)) ∧
    (∀ stream : Stream, stream.BringsNoRequest →
      after (requestEvents responds stream) =
        (⟨session, .finished, []⟩, others.leave registry (requestEvents responds stream)) ∧
      after (conversation responds stream) =
        (⟨session, .finished, []⟩, others.leave registry (conversation responds stream)) ∧
      (accept session).run dispatcher registry (conversation responds stream) =
        (⟨session, .finished, []⟩, registry)) := by
  intro after
  constructor
  · intro frame whole first second front front'
    rw [conversation_eq, conversation_eq, requestEvents_of_arriving responds whole front,
      requestEvents_of_arriving responds whole front']
    exact ⟨rfl, rfl⟩
  · intro stream none
    have refuses := fun others =>
      runAmong_of_no_request responds none.decode_ne others dispatcher registry session
    rw [conversation_eq]
    refine ⟨?_, refuses others [.closing, .released], ?_⟩
    · simpa only [List.append_nil] using refuses others []
    · rw [← leave_idle registry (requestEvents responds stream ++ [.closing, .released])]
      exact refuses (fun _ => id) [.closing, .released]

/-- The frame of a registration. -/
def registering : Bytes :=
  [0, 14, 120, 0, 9, 77, 0, 0, 5, 0, 5, 0, 1, 97, 0, 0]

/-- A registration in two pieces, with a kill request and half a names request behind it on a connection that
breaks. -/
def pipelined : Stream :=
  [.data (registering.take 1), .pending, .data (registering.drop 1 ++ [0, 1, 107]), .data [0, 1], .failure "reset"]

/-- A frame with an unknown tag, and a kill request behind it. -/
def garbled : Stream :=
  [.data [0, 1, 99], .data [0, 1, 107]]

/-- Of a pipelined stream only the registration counts, also where kill requests are obeyed, and of a garbled one
nothing does. -/
theorem only_the_first_frame_counts_of_pipelined :
    let session : Session := ⟨1, .loopback, 40000, 0⟩
    let after := (accept session).runAmong (fun _ => id) ⟨true, 4369⟩ (.empty 1)
    (after (requestEvents (fun _ => true) pipelined)).1 = ⟨session, .holding ['a'], [121, 0, 0, 1]⟩ ∧
      (after (requestEvents (fun _ => true) pipelined)).2.table.nodes.map (·.name) = [['a']] ∧
      (after (conversation (fun _ => true) pipelined)).1 = ⟨session, .finished, [121, 0, 0, 1]⟩ ∧
      (after (conversation (fun _ => true) pipelined)).2.history.entries = [⟨['a'], 9, 1⟩] ∧
      after (conversation (fun _ => true) garbled) = (⟨session, .finished, []⟩, .empty 1) := by
  intro session after
  obtain ⟨counts, refuses⟩ :=
    only_the_first_frame_counts ⟨true, 4369⟩ (.empty 1) session (fun _ => true) fun _ => id
  have whole : Frame.Whole registering := ⟨0, 14, registering.drop 2, rfl, rfl⟩
  have same := counts registering whole pipelined [.data registering] ⟨[0, 1, 107, 0, 1], rfl⟩ ⟨[], rfl⟩
  have reply : after (requestEvents (fun _ => true) pipelined) =
      after [.read (.ok registering), .checked fun _ => true, .written] := same.1
  have hangUp : after (conversation (fun _ => true) pipelined) =
      after [.read (.ok registering), .checked fun _ => true, .written, .closing, .released] := by
    rw [conversation_eq _ [.data registering]] at same
    exact same.2
  have unknown : garbled.BringsNoRequest :=
    .inr ⟨[0, 1, 99], _, ⟨0, 1, [99], rfl, rfl⟩, ⟨[0, 1, 107], rfl⟩, rfl⟩
  rw [reply, hangUp]
  exact ⟨by decide, by decide, by decide, by decide, (refuses garbled unknown).2.2⟩

end Connection

end PortMapper
