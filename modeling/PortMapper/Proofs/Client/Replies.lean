import PortMapper.Client.Registrations
import PortMapper.Proofs.Client.Incoming
import PortMapper.Proofs.Reply.Registration

/-!
# What a client makes of a reply

A call that reads to the end makes of its reply what decoding makes of it, if the daemon closes (`Client.ask_of_closes`).
A registration reads until four bytes have come or the daemon has closed (`Client.requestRegistration_of_replied`), so it
is decided by these (`RegistrationReply.outcome_ok`, `RegistrationReply.outcome_refused`), and it is no fault of the
connection if they are no answer (`Client.four_bytes_decide_a_registration`).
-/

namespace PortMapper

/-! ## A call -/

namespace Client

variable {α : Type} {client : Client} {part : String} {limit : Option Nat} {decode : Bytes → Except WireError α}
  {network : Network} {request : Request} {frame reply : Bytes}

/-- What a call that made a connection ends with is what decoding makes of the bytes that it received. -/
theorem call_of_connected (wrote : request.encode = .ok frame) (connected : (network frame).isConnected = true) :
    client.call part limit request decode network =
      ⟨some frame, client.received part limit (network frame) >>= fun reply => (decode reply).mapError .malformed⟩ := by
  rw [call, wrote]
  simp only [connected, if_true]
  refine congrArg (Call.mk (some frame) <| _ >>= ·) (funext fun reply => ?_)
  cases decode reply <;> rfl

theorem ask_of_unwritten {error : WireError} (unwritten : request.encode = .error error) :
    client.ask request decode network = ⟨none, .error (.malformed error)⟩ := by
  rw [ask, call, unwritten]

/-- A call that reads to the end decodes the whole reply when the daemon closes. -/
theorem ask_of_closes (wrote : request.encode = .ok frame) (closes : (network frame).Closes reply) :
    client.ask request decode network = ⟨some frame, (decode reply).mapError .malformed⟩ := by
  rw [ask, call_of_connected wrote (isConnected_of_closes closes), client.received_of_closes "request" closes]
  rfl

/-- A call that reads to the end fails for the connection unless the daemon closes. -/
theorem ask_of_not_closes (wrote : request.encode = .ok frame) (waits : ∀ reply, ¬ (network frame).Closes reply) :
    ∃ error, (client.ask request decode network).result = .error error ∧ error.isConnection = true := by
  obtain ⟨error, unreceived, connection⟩ := client.received_of_not_closes "request" waits
  refine ⟨error, ?_, connection⟩
  rw [ask, call, wrote]
  exact congrArg (· >>= _) unreceived

end Client

/-! ## A registration -/

namespace RegistrationReply

variable {name : Text} {bytes : Bytes} {creation : UInt16}

/-- What a registration comes to that got these bytes as its reply. -/
def outcome (name : Text) (bytes : Bytes) : Except ClientError UInt16 :=
  match decode bytes with
  | .ok reply => if reply.accepted then .ok reply.creation else .error (.refused name)
  | .error error => .error (.malformed error)

theorem outcome_ok : outcome name (bytes.take wireLength) = .ok creation ↔
    121 :: 0 :: BigEndian.ofUInt16 creation <+: bytes := by
  rw [← decode_take_accept, outcome]
  cases decode (bytes.take wireLength) with
  | error error => simp
  | ok reply =>
    obtain ⟨accepted, number⟩ := reply
    cases accepted <;> simp [accept]

theorem outcome_refused : outcome name (bytes.take wireLength) = .error (.refused name) ↔ Refuses bytes := by
  rw [← decode_take_refused, outcome]
  cases decode (bytes.take wireLength) with
  | error error => simp
  | ok reply =>
    obtain ⟨accepted, number⟩ := reply
    cases accepted <;> simp

theorem outcome_error {error : ClientError} (failed : outcome name bytes = .error error) :
    error = .refused name ∨ ∃ malformed, error = .malformed malformed := by
  unfold outcome at failed
  split at failed
  · split at failed
    · cases failed
    · cases failed
      exact .inl rfl
  · next malformed _ =>
    cases failed
    exact .inr ⟨malformed, rfl⟩

end RegistrationReply

namespace Client

variable {client : Client} {node : NodeDescription} {network : Network} {incoming : Incoming} {frame : Bytes}
  {creation : UInt16}

/-- A registration ends with what its outcome is for the bytes that are read of the reply. -/
theorem requestRegistration_of_replied (wrote : (Request.registration node).encode = .ok frame)
    (replied : network frame = .replied incoming) :
    client.requestRegistration node network =
      ⟨some frame, client.readReply "registration" (some RegistrationReply.wireLength) incoming >>=
        RegistrationReply.outcome node.name⟩ := by
  have connected : (network frame).isConnected = true := by rw [replied]; rfl
  rw [requestRegistration, call_of_connected wrote connected, replied, received]
  cases client.readReply "registration" (some RegistrationReply.wireLength) incoming with
  | error error => rfl
  | ok reply =>
    refine congrArg (Call.mk (some frame)) ?_
    show Except.bind ((RegistrationReply.decode reply).mapError .malformed) _ = RegistrationReply.outcome node.name reply
    rw [RegistrationReply.outcome]
    cases RegistrationReply.decode reply <;> rfl

theorem requestRegistration_of_completes (wrote : (Request.registration node).encode = .ok frame)
    (replied : network frame = .replied incoming) (orderly : incoming.stream.Orderly)
    (completes : incoming.Completes RegistrationReply.wireLength) :
    client.requestRegistration node network =
      ⟨some frame,
        RegistrationReply.outcome node.name (incoming.stream.unread.take RegistrationReply.wireLength)⟩ := by
  rw [requestRegistration_of_replied wrote replied, client.readReply_of_completes _ orderly completes]
  rfl

theorem register_of_ok (free : client.isRegistered node.name = false)
    (accepted : (client.requestRegistration node network).result = .ok creation) :
    client.register node network =
      (client.requestRegistration node network, { client with held := node.name :: client.held }) := by
  simp only [register, free, accepted, Bool.false_eq_true, if_false]

theorem register_of_error {error : ClientError} (free : client.isRegistered node.name = false)
    (failed : (client.requestRegistration node network).result = .error error) :
    client.register node network = (client.requestRegistration node network, client) := by
  simp only [register, free, failed, Bool.false_eq_true, if_false]

theorem register_call (free : client.isRegistered node.name = false) :
    (client.register node network).1 = client.requestRegistration node network := by
  cases result : (client.requestRegistration node network).result with
  | ok creation => rw [register_of_ok free result]
  | error error => rw [register_of_error free result]

/-- Replies of which the same is read make the same registration. -/
theorem register_congr {other : Incoming} {network' : Network} (wrote : (Request.registration node).encode = .ok frame)
    (replied : network frame = .replied incoming) (replied' : network' frame = .replied other)
    (same : client.readReply "registration" (some RegistrationReply.wireLength) incoming =
      client.readReply "registration" (some RegistrationReply.wireLength) other) :
    client.register node network = client.register node network' := by
  have asks : client.requestRegistration node network = client.requestRegistration node network' := by
    rw [requestRegistration_of_replied wrote replied, requestRegistration_of_replied wrote replied', same]
  simp only [register, asks]

/-- A connection that breaks before four bytes have come fails a registration, and one that breaks behind them is as good
as one that stays. -/
theorem register_of_breaks {front : Stream} {cause : String} (free : client.isRegistered node.name = false)
    (wrote : (Request.registration node).encode = .ok frame) (orderly : front.Orderly)
    (breaks : front ++ [.failure cause] <+: incoming.stream) (replied : network frame = .replied incoming) :
    (front.unread.length < RegistrationReply.wireLength →
      (client.register node network).1 = ⟨some frame, .error (.broken cause)⟩) ∧
    (RegistrationReply.wireLength ≤ front.unread.length →
      client.register node network = client.register node fun _ => .kept front.unread) := by
  have reads : client.readReply "registration" (some RegistrationReply.wireLength) incoming = _ :=
    client.readReply_of_breaks "registration" orderly breaks
  refine ⟨fun few => ?_, fun enough => ?_⟩
  · rw [register_call free, requestRegistration_of_replied wrote replied, reads, if_neg (Nat.not_le_of_lt few)]
    rfl
  · let whole : Incoming := .ofBytes front.unread false
    have bytes : whole.stream.unread = front.unread := Incoming.unread_ofBytes _ _
    have completes : whole.Completes RegistrationReply.wireLength := .inr (by rw [bytes]; exact enough)
    refine register_congr wrote replied (show _ = Exchange.replied whole from rfl) ?_
    rw [reads, if_pos enough, client.readReply_of_completes _ (Incoming.orderly_ofBytes _ _) completes, bytes]

theorem held_of_register (free : client.isRegistered node.name = false) (network : Network) :
    (∀ creation, (client.register node network).1.result = .ok creation →
      (client.register node network).2 = { client with held := node.name :: client.held }) ∧
    (∀ error, (client.register node network).1.result = .error error →
      (client.register node network).2 = client ∧
        (client.register node network).2.isRegistered node.name = false) := by
  rw [register_call free]
  refine ⟨fun creation accepted => congrArg Prod.snd (register_of_ok free accepted), fun error failed => ?_⟩
  have same : (client.register node network).2 = client := congrArg Prod.snd (register_of_error free failed)
  rw [same]
  exact ⟨rfl, free⟩

/-- A client that does not hold the name of a node and can write its registration sends the frame, once, and reads what
comes back until it has four bytes or the daemon has closed. In whatever chunks the bytes come, the first four and
nothing else decide then: the registration has the creation number that follows the tag and a zero; it is refused if the
tag and another status come alone or with two more bytes; and any other bytes are a malformed reply, which is no fault of
the connection. If fewer bytes arrive and the daemon does not close, the call times out, which is one, and so is a
connection that breaks before the fourth byte; behind it that is not noticed. The name is held after a success, and
otherwise it is as free as before; in between it is reserved, and what the call then ends with is the same. -/
theorem four_bytes_decide_a_registration (client : Client) (node : NodeDescription)
    (free : client.isRegistered node.name = false) (wrote : (Request.registration node).encode = .ok frame) :
    (∀ (incoming : Incoming) network, incoming.stream.Orderly → network frame = .replied incoming →
      let bytes := incoming.stream.unread
      let call := (client.register node network).1
      call.sent = some frame ∧
      (incoming.closes = true ∨ 4 ≤ bytes.length →
        (∀ creation, call.result = .ok creation ↔ 121 :: 0 :: BigEndian.ofUInt16 creation <+: bytes) ∧
        (call.result = .error (.refused node.name) ↔
          ∃ status, status ≠ 0 ∧ (bytes = [121, status] ∨ [121, status] <+: bytes ∧ 4 ≤ bytes.length)) ∧
        (∀ error, call.result = .error error →
          error = .refused node.name ∨ (∃ malformed, error = .malformed malformed) ∧ error.isConnection = false)) ∧
      (incoming.closes = false → bytes.length < 4 →
        ∃ error, call.result = .error error ∧ error = .timedOut "registration" client.settings.requestTimeout ∧
          error.isConnection = true)) ∧
    (∀ (incoming other : Incoming) network network', incoming.stream.Orderly → other.stream.Orderly →
      network frame = .replied incoming → network' frame = .replied other →
      incoming.closes = true ∨ 4 ≤ incoming.stream.unread.length →
      other.closes = true ∨ 4 ≤ other.stream.unread.length →
      incoming.stream.unread.take 4 = other.stream.unread.take 4 →
        client.register node network = client.register node network') ∧
    (∀ (incoming : Incoming) (front : Stream) cause network, front.Orderly →
      front ++ [.failure cause] <+: incoming.stream → network frame = .replied incoming →
      (front.unread.length < 4 → ∃ error, (client.register node network).1 = ⟨some frame, .error error⟩ ∧
        error = .broken cause ∧ error.isConnection = true) ∧
      (4 ≤ front.unread.length →
        client.register node network = client.register node fun _ => .kept front.unread)) ∧
    (∀ network,
      let call := (client.register node network).1
      let after := (client.register node network).2
      (∀ creation, call.result = .ok creation → after = { client with held := node.name :: client.held }) ∧
      (∀ error, call.result = .error error → after = client ∧ after.isRegistered node.name = false)) ∧
    (∀ (state : Registrations) network, state.client = client →
      let reserved := (state.register node).2
      let ended := reserved.finish 0 node network
      reserved.client.isRegistered node.name = true ∧ (ended.1, ended.2.client) = client.register node network) := by
  refine ⟨fun incoming network orderly replied => ?_, ?_, ?_, held_of_register free, ?_⟩
  · intro bytes call
    have asked : call = _ := (register_call free).trans (requestRegistration_of_replied wrote replied)
    rw [asked]
    refine ⟨rfl, fun (completes : incoming.Completes RegistrationReply.wireLength) => ?_, fun stays few => ?_⟩
    · rw [client.readReply_of_completes _ orderly completes]
      refine ⟨fun _ => RegistrationReply.outcome_ok, RegistrationReply.outcome_refused, fun error failed => ?_⟩
      rcases RegistrationReply.outcome_error failed with refused | ⟨malformed, rfl⟩
      · exact .inl refused
      · exact .inr ⟨⟨malformed, rfl⟩, rfl⟩
    · have waits : ¬ incoming.Completes RegistrationReply.wireLength :=
        not_or.mpr ⟨by rw [stays]; exact Bool.false_ne_true, Nat.not_le_of_lt few⟩
      rw [client.readReply_of_not_completes _ orderly waits]
      exact ⟨_, rfl, rfl, rfl⟩
  · intro incoming other network network' orderly orderly' replied replied' completes completes' same
    have reads : client.readReply "registration" (some RegistrationReply.wireLength) incoming = _ :=
      client.readReply_of_completes _ orderly completes
    have reads' : client.readReply "registration" (some RegistrationReply.wireLength) other = _ :=
      client.readReply_of_completes _ orderly' completes'
    exact register_congr wrote replied replied' (reads.trans ((congrArg Except.ok same).trans reads'.symm))
  · intro incoming front cause network orderly breaks replied
    obtain ⟨fails, stays⟩ := register_of_breaks free wrote orderly breaks replied
    exact ⟨fun few => ⟨_, fails few, rfl, rfl⟩, stays⟩
  · rintro state network rfl
    refine ⟨?_, Registrations.finish_register network free⟩
    rw [Registrations.register, if_neg (Bool.eq_false_iff.mp free), isRegistered, List.contains_iff_mem]
    exact List.mem_cons_self

/-- The four bytes of an acceptance come in three chunks, with another byte behind them, and the daemon stays. -/
def piecemeal : Incoming :=
  ⟨[.data [121], .pending, .data [0, 1], .data [2, 99]], false, by decide⟩

/-- A node gets its creation number from these chunks; with one chunk less the call times out and the name is free; and
a refusal may end after its status. -/
theorem four_bytes_decide_a_registration_of_piecemeal :
    let client : Client := ⟨{}, []⟩
    let node : NodeDescription := { port := 9, name := ['a'] }
    let registers (incoming : Incoming) := client.register node fun _ => .replied incoming
    let shorter : Incoming := ⟨piecemeal.stream.take 3, false, by decide⟩
    let refusal : Incoming := ⟨[.data [121, 1]], true, by decide⟩
    (registers piecemeal).1.result = .ok 258 ∧ (registers piecemeal).2.isRegistered ['a'] = true ∧
      (registers shorter).1.result = .error (.timedOut "registration" 5000) ∧
      (registers shorter).2.isRegistered ['a'] = false ∧ (registers refusal).1.result = .error (.refused ['a']) := by
  intro client node registers shorter refusal
  obtain ⟨decides, _, _, holds, _⟩ := four_bytes_decide_a_registration client node rfl rfl
  obtain ⟨_, accepts, _⟩ := decides piecemeal (fun _ => .replied piecemeal) (by decide) rfl
  obtain ⟨_, _, waits⟩ := decides shorter (fun _ => .replied shorter) (by decide) rfl
  obtain ⟨_, refuses, _⟩ := decides refusal (fun _ => .replied refusal) (by decide) rfl
  have accepted : (registers piecemeal).1.result = .ok 258 :=
    ((accepts (.inr (by decide))).1 258).mpr ⟨[99], rfl⟩
  obtain ⟨_, expired, rfl, _⟩ := waits rfl (by decide)
  refine ⟨accepted, ?_, expired, ((holds _).2 _ expired).2, ?_⟩
  · rw [(holds _).1 258 accepted]
    rfl
  · exact ((refuses (.inl rfl)).2.1).mpr ⟨1, by decide, .inl rfl⟩

end Client

end PortMapper
