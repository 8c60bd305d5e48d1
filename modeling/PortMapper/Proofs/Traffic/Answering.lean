import PortMapper.Proofs.Request.Fitting
import PortMapper.Proofs.Traffic.Listing
import PortMapper.Proofs.Traffic.Overlapping
import PortMapper.Traffic.Probing

/-!
# Every request is answered

A reply fails only if it cannot be written. Whatever the traffic was, the nodes in the registry, those in its history
and those that a request waits for came in frames (`OverlappingTraffic.Framed`), and what came in a frame fits
into each reply (`Dispatcher.exists_reply`). So every request is answered (`every_request_is_answered`), and a name
that was registered can be asked for, since its registration took a longer frame (`askable_of_registration`).
-/

namespace PortMapper

/-! ## What fits into a frame -/

/-- A request is written if its name stands in the frame of another one that is not shorter. -/
theorem Request.exists_encode_of_le {request : Request} {frame : Bytes} (other : Request)
    (wrote : request.encode = .ok frame) (same : other.name = request.name)
    (shorter : other.frameLength ≤ request.frameLength) : ∃ frame, other.encode = .ok frame := by
  obtain ⟨latin, fits⟩ := encode_ok_iff.mp ⟨frame, wrote⟩
  rw [overlong?_lengths_eq_none] at fits
  refine encode_ok_iff.mpr ⟨?_, overlong?_lengths_eq_none.mpr (Nat.le_trans shorter fits)⟩
  rw [same]
  exact latin

/-- There is a frame that looks the name up, and one that stops its node. -/
structure Text.Askable (name : Text) : Prop where
  lookup : ∃ frame, (Request.nodeInfo name).encode = .ok frame ∧ Request.decode frame = .ok (.nodeInfo name)
  stop : ∃ frame, (Request.stop name).encode = .ok frame ∧ Request.decode frame = .ok (.stop name)

/-- The frame of a registration has room for more than its name. -/
theorem askable_of_registration {node : NodeDescription} {frame : Bytes}
    (wrote : (Request.registration node).encode = .ok frame) : node.name.Askable := by
  have shorter : 1 + node.name.length ≤ (Request.registration node).frameLength := by
    rw [Request.frameLength]
    omega
  obtain ⟨lookup, asks⟩ := Request.exists_encode_of_le (.nodeInfo node.name) wrote rfl shorter
  obtain ⟨stop, stops⟩ := Request.exists_encode_of_le (.stop node.name) wrote rfl shorter
  exact ⟨⟨lookup, asks, Request.decode_of_encode asks⟩, ⟨stop, stops, Request.decode_of_encode stops⟩⟩

namespace Node.Framed

variable {node : Node}

theorem exists_encode (framed : node.Framed) : ∃ bytes, node.description.encode = .ok bytes := by
  obtain ⟨frame, decoded⟩ := framed
  obtain ⟨body, wrote, _⟩ := Request.encode_ok.mp (Request.decode_ok.mp decoded).1
  exact ⟨body, wrote⟩

theorem askable (framed : node.Framed) : node.name.Askable := by
  obtain ⟨frame, decoded⟩ := framed
  exact askable_of_registration (Request.decode_ok.mp decoded).1

end Node.Framed

namespace Dispatcher

variable (dispatcher : Dispatcher) {registry : Registry} {verdicts : List Verdict}

/-! ## Replies -/

theorem exists_nodeInfo {found : Option Node} (framed : ∀ node ∈ found, node.Framed) :
    ∃ reply, (NodeInfo.ofDescription? (found.map (·.description))).encode = .ok reply := by
  cases found with
  | none => exact ⟨_, rfl⟩
  | some node =>
    obtain ⟨bytes, wrote⟩ := (framed node rfl).exists_encode
    exact ⟨_, bind_eq_ok.mpr ⟨bytes, wrote, rfl⟩⟩

/-- A request is answered if the nodes in the registry and those that were checked came in frames. -/
theorem exists_reply (framed : registry.Framed) (checked : ∀ verdict ∈ verdicts, verdict.1.Framed)
    (session : Session) (request : Request) :
    ∃ reply action, (dispatcher.answer registry session verdicts request).1 = .ok (reply, action) := by
  have live : ∀ node ∈ (registry.settle verdicts).1, node.Framed := by
    intro node member
    obtain ⟨verdict, found, rfl⟩ := List.mem_map.mp member
    exact checked verdict (List.mem_filter.mp found).1
  cases request with
  | registration node =>
    simp only [answer]
    split <;> exact ⟨_, _, rfl⟩
  | nodeInfo name =>
    obtain ⟨reply, wrote⟩ := exists_nodeInfo fun node first => live node (List.mem_of_head? first)
    exact ⟨reply, .close, congrArg (Except.map (·, Action.close)) wrote⟩
  | names =>
    obtain ⟨reply, wrote⟩ := dispatcher.exists_encode_nameListing live
    exact ⟨reply, .close, congrArg (Except.map (·, Action.close)) wrote⟩
  | dump =>
    obtain ⟨_, retires, _⟩ := registry.settle_retires verdicts
    obtain ⟨reply, wrote⟩ :=
      dispatcher.exists_encode_dump live (Registry.framed_of_retires retires framed).history
    exact ⟨reply, .close, congrArg (Except.map (·, Action.close)) wrote⟩
  | kill =>
    simp only [answer]
    split <;> exact ⟨_, _, rfl⟩
  | stop name =>
    simp only [answer]
    split
    · split <;> exact ⟨_, _, rfl⟩
    · exact ⟨_, _, rfl⟩

end Dispatcher

/-! ## Requests that wait -/

/-- The nodes that the request waits for came in frames, and it came in one itself. -/
structure Inquiry.Framed (inquiry : Inquiry) : Prop where
  checks : ∀ check ∈ inquiry.checks, check.node.Framed
  request : ∃ frame, Request.decode frame = .ok inquiry.request

theorem Dispatcher.toCheck_subset (registry : Registry) (request : Request) :
    toCheck registry request ⊆ registry.table.nodes := by
  cases request with
  | nodeInfo name =>
    intro node found
    exact (Registry.find?_eq_some_iff.mp (Option.mem_toList.mp found)).1
  | names | dump => exact List.Subset.refl _
  | registration | kill | stop => exact List.nil_subset _

theorem Dispatcher.framed_inquire {registry : Registry} {frame : Bytes} {request : Request}
    (framed : registry.Framed) (decoded : Request.decode frame = .ok request) (session : Session) :
    (inquire registry session request).Framed where
  checks := by
    intro check member
    obtain ⟨node, checked, rfl⟩ := List.mem_map.mp member
    exact framed.nodes node (toCheck_subset registry request checked)
  request := ⟨frame, decoded⟩

/-- A request that came in a frame is answered, whichever of the nodes that it waited for respond. -/
theorem Dispatcher.exists_resolve {registry : Registry} {inquiry : Inquiry} (dispatcher : Dispatcher)
    (framed : registry.Framed) (came : inquiry.Framed) (responds : Node → Bool) :
    ∃ reply action, (dispatcher.resolve responds registry inquiry).1 = .ok (reply, action) := by
  refine dispatcher.exists_reply framed ?_ inquiry.session inquiry.request
  intro verdict member
  obtain ⟨check, waits, rfl⟩ := List.mem_map.mp member
  exact came.checks check waits

namespace OverlappingTraffic

variable {dispatcher : Dispatcher} {before after traffic : OverlappingTraffic}

/-- What is stored came in frames, and so did what waits. -/
structure Framed (traffic : OverlappingTraffic) : Prop where
  registry : traffic.registry.Framed
  waiting : ∀ inquiry ∈ traffic.waiting, inquiry.Framed

theorem framed_of_registry (framed : before.Framed) {registry : Registry} (changed : registry.Framed) :
    { before with registry }.Framed :=
  ⟨changed, framed.waiting⟩

theorem framed_of_receive (framed : before.Framed) (session : Session) (frame : Bytes) :
    (before.receive session frame).Framed := by
  unfold receive
  split
  · next decoded =>
    refine ⟨framed.registry, List.forall_mem_cons.mpr ⟨?_, framed.waiting⟩⟩
    exact Dispatcher.framed_inquire framed.registry decoded session
  · exact framed

theorem framed_of_resolve {place : Nat} {inquiry : Inquiry} (framed : before.Framed)
    (waits : before.waiting[place]? = some inquiry) (responds : Node → Bool) :
    (before.resolve dispatcher responds place inquiry).Framed := by
  obtain ⟨_, decoded⟩ := (framed.waiting inquiry (List.mem_of_getElem? waits)).request
  refine ⟨Dispatcher.framed_of_answer framed.registry decoded inquiry.session _, ?_⟩
  exact fun other member => framed.waiting other (List.mem_of_mem_eraseIdx member)

theorem framed_of_step {event : OverlappingEvent} (framed : before.Framed)
    (step : before.step dispatcher event = some after) : after.Framed := by
  cases event with
  | openSession peer =>
    obtain ⟨id, _, ⟨⟩⟩ := Option.bind_eq_some_iff.mp step
    exact ⟨framed.registry, framed.waiting⟩
  | frame id frame =>
    obtain ⟨session, _, ⟨⟩⟩ := Option.bind_eq_some_iff.mp step
    exact framed_of_receive framed session frame
  | answer place answers =>
    obtain ⟨inquiry, waits, ⟨⟩⟩ := Option.bind_eq_some_iff.mp step
    exact framed_of_resolve framed waits fun node => answers node.probeAddress
  | closeSession id =>
    obtain ⟨session, _, ⟨⟩⟩ := Option.bind_eq_some_iff.mp step
    exact framed_of_registry framed (Registry.framed_of_close session framed.registry)
  | release id name =>
    cases step
    exact framed_of_registry framed
      (Registry.framed_of_retires (before.registry.removeSession_retires name id) framed.registry)

theorem Reachable.framed (reachable : traffic.Reachable dispatcher) : traffic.Framed := by
  induction reachable with
  | start seed => exact ⟨Registry.framed_empty seed, List.forall_mem_nil _⟩
  | step earlier happens framed => exact framed_of_step framed happens
  | resolve responds earlier waits framed => exact framed_of_resolve framed waits responds

theorem reachable_of_run {seed : UInt16} {events : List OverlappingEvent}
    (run : (start seed).run dispatcher events = some traffic) : traffic.Reachable dispatcher :=
  PortMapper.holds_of_run (motive := Reachable dispatcher) (fun earlier happens => earlier.step happens) run
    (.start seed)

/-! ## Answers to all -/

/-- Whatever the traffic was, a request that waits is answered, whichever nodes respond, and so is one that comes in
a frame and does not wait. What is registered can be written, and each name that is registered or in the history
can be looked up and stopped, as can every name whose registration has a frame. -/
theorem every_request_is_answered (reachable : traffic.Reachable dispatcher) :
    (∀ inquiry ∈ traffic.waiting, ∀ responds, ∃ reply action,
      (dispatcher.resolve responds traffic.registry inquiry).1 = .ok (reply, action)) ∧
    (∀ frame request, Request.decode frame = .ok request → ∀ session answers, ∃ reply action,
      (dispatcher.dispatch answers traffic.registry session request).1 = .ok (reply, action)) ∧
    (∀ node ∈ traffic.registry.table.nodes, node.name.Askable ∧
      ∃ bytes, node.description.encode = .ok bytes) ∧
    (∀ retirement ∈ traffic.registry.history.entries, retirement.name.Askable) ∧
    (∀ node frame, (Request.registration node).encode = .ok frame → node.name.Askable) := by
  obtain ⟨registry, waiting⟩ := reachable.framed
  refine ⟨?_, ?_, ?_, ?_, fun node frame wrote => askable_of_registration wrote⟩
  · intro inquiry member responds
    exact dispatcher.exists_resolve registry (waiting inquiry member) responds
  · intro frame request decoded session answers
    exact dispatcher.exists_resolve registry (Dispatcher.framed_inquire registry decoded session)
      fun node => answers node.probeAddress
  · intro node registered
    exact ⟨(registry.nodes node registered).askable, (registry.nodes node registered).exists_encode⟩
  · intro retirement ended
    obtain ⟨node, came, rfl⟩ := registry.history retirement ended
    exact came.askable

/-- Two nodes register one port on one host, one of them with extra bytes and a name outside ASCII, and a dump
request waits for both. -/
def neighbours : List OverlappingEvent :=
  [.openSession ⟨.loopback, 40000, 0⟩, .openSession ⟨.loopback, 40001, 0⟩, .openSession ⟨.loopback, 40002, 0⟩,
    .frame 1 [0, 14, 120, 0, 9, 77, 0, 0, 5, 0, 5, 0, 1, 97, 0, 0], .answer 0 fun _ => true,
    .frame 2 [0, 15, 120, 0, 9, 77, 0, 0, 5, 0, 5, 0, 1, 233, 0, 1, 7], .answer 0 fun _ => true,
    .frame 3 [0, 1, 100]]

/-- The dump is answered when only one of the neighbours responds, and the other one, which is in the history then,
can still be asked for. -/
theorem every_request_is_answered_of_neighbours :
    ∃ traffic inquiry reply action, (start 1).run ⟨false, 4369⟩ neighbours = some traffic ∧
      traffic.waiting = [inquiry] ∧
      (Dispatcher.resolve ⟨false, 4369⟩ (·.name = ['a']) traffic.registry inquiry).1 = .ok (reply, action) ∧
      (Dispatcher.resolve ⟨false, 4369⟩ (·.name = ['a']) traffic.registry inquiry).2.history.entries =
        [⟨['é'], 9, 2⟩] ∧
      Text.Askable ['é'] := by
  let traffic := ((start 1).run ⟨false, 4369⟩ neighbours).get (by decide)
  have ran : (start 1).run ⟨false, 4369⟩ neighbours = some traffic := (Option.some_get _).symm
  have reachable := reachable_of_run ran
  let inquiry : Inquiry := traffic.waiting.head (by decide)
  have waits : traffic.waiting = [inquiry] := by decide
  obtain ⟨answered, _, _, _, _⟩ := every_request_is_answered reachable
  obtain ⟨reply, action, answer⟩ := answered inquiry (by simp [waits]) (·.name = ['a'])
  have ended : (Dispatcher.resolve ⟨false, 4369⟩ (·.name = ['a']) traffic.registry inquiry).2.history.entries =
      [⟨['é'], 9, 2⟩] := by decide
  have past : ⟨['é'], 9, 2⟩ ∈
      (Dispatcher.resolve ⟨false, 4369⟩ (·.name = ['a']) traffic.registry inquiry).2.history.entries := by
    rw [ended]
    exact List.mem_singleton_self _
  have first : traffic.waiting[0]? = some inquiry := by rw [waits]; rfl
  have later := reachable.resolve (·.name = ['a']) first
  obtain ⟨_, _, _, askable, _⟩ := every_request_is_answered later
  have known : Text.Askable ['é'] := askable ⟨['é'], 9, 2⟩ past
  exact ⟨traffic, inquiry, reply, action, ran, waits, answer, ended, known⟩

end OverlappingTraffic

end PortMapper
