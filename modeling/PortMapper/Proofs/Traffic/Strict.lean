import PortMapper.Proofs.Traffic.Overlapping

/-!
# Strict dispatchers

A dispatcher that does not allow kill and stop refuses both with a word and does nothing else (`answer_kill`,
`answer_stop`), and no request makes it stop (`action_ne_shutdown`). While nobody leaves and everybody answers, no
other request takes a node out either, whichever requests overlap: a lookup, a listing and a dump find all nodes
alive, and no registration finds a name that was given up (`registry_conclude`). So every node stays as it is
(`OverlappingTraffic.strict_dispatcher_keeps_every_node`).
-/

namespace PortMapper

namespace Dispatcher

variable {dispatcher : Dispatcher} {registry : Registry} {session : Session} {verdicts : List Verdict}
  {request : Request} {reply : Bytes} {action : Action}

/-! ## What a strict dispatcher refuses -/

theorem answer_kill (strict : dispatcher.relaxed = false) :
    dispatcher.answer registry session verdicts .kill = (.ok (KillReply.notOk.encode, .close), registry) := by
  unfold answer
  rw [strict]
  rfl

theorem answer_stop (strict : dispatcher.relaxed = false) (name : Text) :
    dispatcher.answer registry session verdicts (.stop name) =
      (.ok (StopReply.notThere.encode, .close), registry) := by
  unfold answer
  rw [strict]
  rfl

/-- No request makes a strict dispatcher stop. -/
theorem action_ne_shutdown (strict : dispatcher.relaxed = false)
    (answered : (dispatcher.answer registry session verdicts request).1 = .ok (reply, action)) :
    action ≠ .shutdown := by
  rintro rfl
  cases request with
  | registration node =>
    rcases registry.register_cases node session with ⟨_, refused⟩ | ⟨_, registered⟩
    · simp only [answer, refused] at answered
      cases answered
    · simp only [answer, registered, Registry.accept] at answered
      cases answered
  | nodeInfo name | names | dump => cases (closes_of_map answered).2
  | kill =>
    rw [answer_kill strict] at answered
    cases answered
  | stop name =>
    rw [answer_stop strict] at answered
    cases answered

/-! ## What a strict dispatcher keeps -/

/-- If everybody is found alive, only a registration changes the registry. -/
theorem registry_answer_of_alive (strict : dispatcher.relaxed = false)
    (alive : ∀ verdict ∈ verdicts, verdict.2 = true) (other : request.kind ≠ .registration) :
    (dispatcher.answer registry session verdicts request).2 = registry := by
  cases request with
  | registration node => exact absurd rfl other
  | nodeInfo name | names | dump => exact Registry.settle_of_alive alive
  | kill => rw [answer_kill strict]
  | stop name => rw [answer_stop strict]

/-- If all sessions are open, a registration is refused, or its name is free. -/
theorem registry_answer_registration (node : NodeDescription) (closed : registry.closed = []) :
    (dispatcher.answer registry session verdicts (.registration node)).2 = registry ∨
      registry.find? node.name = none ∧
        (dispatcher.answer registry session verdicts (.registration node)).2 =
          (registry.accept none node session).2 := by
  rcases registry.register_cases node session with ⟨_, refused⟩ | ⟨stale, registered⟩
  · refine .inl ?_
    simp only [answer, refused]
  · have free : registry.find? node.name = none := by
      cases found : registry.find? node.name with
      | none => rfl
      | some holder =>
        have gone := stale holder found
        rw [Registry.isOpen, closed] at gone
        cases gone
    refine .inr ⟨free, ?_⟩
    rw [free] at registered
    simp only [answer, registered, Registry.accept]

/-- If everybody who was checked was asked and answers, and all sessions are open, a request puts a node under a
free name or leaves the registry as it is. -/
theorem registry_conclude {answers : SocketAddress → Bool} {inquiry : Inquiry}
    (strict : dispatcher.relaxed = false) (responding : ∀ address, answers address = true)
    (asked : ∀ check ∈ inquiry.checks, check.asked = true) (closed : registry.closed = []) :
    (dispatcher.conclude answers registry inquiry).2 = registry ∨
      ∃ node, registry.find? node.name = none ∧
        (dispatcher.conclude answers registry inquiry).2 = (registry.accept none node inquiry.session).2 := by
  have alive : ∀ verdict ∈ inquiry.checks.map (·.verdict fun node => answers node.probeAddress),
      verdict.2 = true := by
    intro verdict member
    obtain ⟨check, checked, rfl⟩ := List.mem_map.mp member
    show (check.asked && answers check.node.probeAddress) = true
    rw [asked check checked, responding]
    rfl
  unfold conclude
  cases sort : inquiry.request with
  | registration node =>
    rcases registry_answer_registration node closed with same | ⟨free, accepted⟩
    · exact .inl same
    · exact .inr ⟨node, free, accepted⟩
  | nodeInfo name | names | dump | kill | stop name =>
    exact .inl (registry_answer_of_alive strict alive (by simp [Request.kind]))

end Dispatcher

/-! ## Traffic in which nobody leaves -/

namespace OverlappingTraffic

variable {dispatcher : Dispatcher} {before after : OverlappingTraffic} {event : OverlappingEvent} {node : Node}

/-- Nobody leaves, and whoever is asked to answer does. -/
def Peaceful : OverlappingEvent → Prop
  | .openSession _ => True
  | .frame _ _ => True
  | .answer _ answers => ∀ address, answers address = true
  | .closeSession _ => False
  | .release _ _ => False

/-- Nobody has left: all sessions are open, the history is empty, and whoever is being checked was asked to
answer. -/
structure Undisturbed (traffic : OverlappingTraffic) : Prop where
  closed : traffic.registry.closed = []
  history : traffic.registry.history.entries = []
  asked : ∀ inquiry ∈ traffic.waiting, ∀ check ∈ inquiry.checks, check.asked = true

theorem undisturbed_start (seed : UInt16) : (start seed).Undisturbed where
  closed := rfl
  history := rfl
  asked := fun _ member => absurd member List.not_mem_nil

/-- While all sessions are open, whoever is to be checked is asked to answer. -/
theorem asked_of_inquire {registry : Registry} (closed : registry.closed = []) (session : Session)
    (request : Request) : ∀ check ∈ (Dispatcher.inquire registry session request).checks, check.asked = true := by
  intro check member
  obtain ⟨node, _, rfl⟩ := List.mem_map.mp member
  show registry.isOpen node.session = true
  rw [Registry.isOpen, closed]
  rfl

/-- A peaceful event puts a node under a free name or leaves the registry as it is, and whoever is being checked
then was asked to answer. -/
theorem effect_of_step (strict : dispatcher.relaxed = false) (peaceful : Peaceful event)
    (undisturbed : before.Undisturbed) (step : before.step dispatcher event = some after) :
    (after.registry = before.registry ∨
      ∃ description session, before.registry.find? description.name = none ∧
        after.registry = (before.registry.accept none description session).2) ∧
    ∀ inquiry ∈ after.waiting, ∀ check ∈ inquiry.checks, check.asked = true := by
  obtain ⟨closed, _, asked⟩ := undisturbed
  cases event with
  | openSession peer =>
    obtain ⟨id, _, ⟨⟩⟩ := Option.bind_eq_some_iff.mp step
    exact ⟨.inl rfl, asked⟩
  | frame id frame =>
    obtain ⟨session, _, ⟨⟩⟩ := Option.bind_eq_some_iff.mp step
    refine ⟨.inl (registry_receive before session frame), ?_⟩
    unfold receive
    split
    · exact List.forall_mem_cons.mpr ⟨asked_of_inquire closed _ _, asked⟩
    · exact asked
  | answer place answers =>
    obtain ⟨inquiry, waiting, ⟨⟩⟩ := Option.bind_eq_some_iff.mp step
    refine ⟨?_, fun other member => asked other (List.mem_of_mem_eraseIdx member)⟩
    rcases Dispatcher.registry_conclude strict peaceful (asked inquiry (List.mem_of_getElem? waiting)) closed with
      same | ⟨description, free, accepted⟩
    · exact .inl same
    · exact .inr ⟨description, inquiry.session, free, accepted⟩
  | closeSession id => cases peaceful
  | release id name => cases peaceful

/-- After a peaceful event still nobody has left. -/
theorem undisturbed_of_step (strict : dispatcher.relaxed = false) (peaceful : Peaceful event)
    (undisturbed : before.Undisturbed) (step : before.step dispatcher event = some after) :
    after.Undisturbed := by
  obtain ⟨same | ⟨description, session, _, accepted⟩, asked⟩ :=
    effect_of_step strict peaceful undisturbed step
  · exact ⟨by rw [same]; exact undisturbed.closed, by rw [same]; exact undisturbed.history, asked⟩
  · exact ⟨by rw [accepted]; exact undisturbed.closed, by rw [accepted]; exact undisturbed.history, asked⟩

/-- A peaceful event leaves every node where it is. -/
theorem find?_of_step (strict : dispatcher.relaxed = false) (peaceful : Peaceful event)
    (undisturbed : before.Undisturbed) (step : before.step dispatcher event = some after)
    (found : before.registry.find? node.name = some node) : after.registry.find? node.name = some node := by
  obtain ⟨same | ⟨description, session, free, accepted⟩, _⟩ := effect_of_step strict peaceful undisturbed step
  · rw [same]
    exact found
  · have other : node.name ≠ description.name := by
      intro same
      rw [← same, found] at free
      cases free
    rw [accepted, Registry.find?_accept_of_ne other]
    exact found

/-! ## Runs in which nobody leaves -/

theorem undisturbed_of_run {events : List OverlappingEvent} (strict : dispatcher.relaxed = false)
    (peaceful : ∀ event ∈ events, Peaceful event) (undisturbed : before.Undisturbed)
    (run : before.run dispatcher events = some after) : after.Undisturbed :=
  holds_of_run_of_forall Peaceful (motive := Undisturbed)
    (fun peaceful undisturbed step => undisturbed_of_step strict peaceful undisturbed step) peaceful run
    undisturbed

theorem find?_of_run {events : List OverlappingEvent} (strict : dispatcher.relaxed = false)
    (peaceful : ∀ event ∈ events, Peaceful event) (undisturbed : before.Undisturbed)
    (run : before.run dispatcher events = some after) (found : before.registry.find? node.name = some node) :
    after.registry.find? node.name = some node := by
  refine (holds_of_run_of_forall Peaceful
    (motive := fun traffic => traffic.Undisturbed ∧ traffic.registry.find? node.name = some node) ?_ peaceful run
    ⟨undisturbed, found⟩).2
  intro before event after peaceful held step
  exact ⟨undisturbed_of_step strict peaceful held.1 step, find?_of_step strict peaceful held.1 step held.2⟩

/-- A strict dispatcher refuses kill and stop, whatever its registry is: it checks nobody, answers with a word,
closes the connection and leaves the registry as it is. No request makes it stop. So if nobody leaves and everybody
answers, each node that was registered at some time is the same at any later time, whoever asked for what and
whichever requests overlapped, and the history is empty. -/
theorem strict_dispatcher_keeps_every_node (strict : dispatcher.relaxed = false) :
    (∀ (registry later : Registry) session answers,
      (Dispatcher.inquire registry session .kill).checks = [] ∧
      dispatcher.conclude answers later (Dispatcher.inquire registry session .kill) =
        (.ok ([78, 79, 75], .close), later)) ∧
    (∀ (registry later : Registry) session answers name,
      (Dispatcher.inquire registry session (.stop name)).checks = [] ∧
      dispatcher.conclude answers later (Dispatcher.inquire registry session (.stop name)) =
        (.ok ([78, 79, 69, 88, 73, 83, 84], .close), later)) ∧
    (∀ registry inquiry answers reply action,
      (dispatcher.conclude answers registry inquiry).1 = .ok (reply, action) → action ≠ .shutdown) ∧
    (∀ seed earlier since before after, (∀ event ∈ earlier ++ since, Peaceful event) →
      (start seed).run dispatcher earlier = some before → before.run dispatcher since = some after →
      (∀ node ∈ before.registry.table.nodes, after.registry.find? node.name = some node) ∧
      after.registry.history.entries = []) := by
  refine ⟨?_, ?_, ?_, ?_⟩
  · intro registry later session answers
    exact ⟨rfl, Dispatcher.answer_kill strict⟩
  · intro registry later session answers name
    exact ⟨rfl, Dispatcher.answer_stop strict name⟩
  · intro registry inquiry answers reply action answered
    exact Dispatcher.action_ne_shutdown strict answered
  · intro seed earlier since before after peaceful arrived run
    obtain ⟨first, later⟩ := List.forall_mem_append.mp peaceful
    have undisturbed := undisturbed_of_run strict first (undisturbed_start seed) arrived
    refine ⟨fun node member => ?_, (undisturbed_of_run strict later undisturbed run).history⟩
    exact find?_of_run strict later undisturbed run (Registry.find?_eq_some_iff.mpr ⟨member, rfl⟩)

/-- The first node that registers. -/
def resident : Node :=
  ⟨{ port := 9, name := ['a'] }, 7, ⟨1, ⟨.loopback, 40000, 0⟩⟩⟩

def arrival : List OverlappingEvent :=
  [.openSession resident.session.peer, .frame 1 [0, 14, 120, 0, 9, 110, 0, 0, 5, 0, 5, 0, 1, 97, 0, 0],
    .answer 0 fun _ => true]

/-- Another session begins a dump, asks to stop the resident and everything, wants the name itself, and gets the
dump then. -/
def attacks : List OverlappingEvent :=
  [.openSession ⟨.loopback, 40001, 0⟩, .frame 2 [0, 1, 100], .frame 2 [0, 2, 115, 97], .frame 2 [0, 1, 107],
    .frame 2 [0, 14, 120, 0, 10, 110, 0, 0, 5, 0, 5, 0, 1, 97, 0, 0], .answer 0 fun _ => true,
    .answer 1 fun _ => true, .answer 0 fun _ => true, .answer 0 fun _ => true]

/-- The resident is still there after the attacks. -/
theorem strict_dispatcher_keeps_every_node_of_attacks :
    ∃ before after, (start 7).run ⟨false, 4369⟩ arrival = some before ∧
      before.run ⟨false, 4369⟩ attacks = some after ∧
      after.registry.find? resident.name = some resident ∧ after.registry.history.entries = [] := by
  let arrived := (start 7).run ⟨false, 4369⟩ arrival
  let before := arrived.get (by decide)
  let ran := before.run ⟨false, 4369⟩ attacks
  let after := ran.get (by decide)
  have came : arrived = some before := (Option.some_get _).symm
  have run : ran = some after := (Option.some_get _).symm
  have peaceful : ∀ event ∈ arrival ++ attacks, Peaceful event := by
    simp [arrival, attacks, Peaceful]
  have strict : Dispatcher.relaxed ⟨false, 4369⟩ = false := rfl
  obtain ⟨_, _, _, keeps⟩ := strict_dispatcher_keeps_every_node strict
  obtain ⟨kept, history⟩ := keeps 7 arrival attacks before after peaceful came run
  exact ⟨before, after, came, run, kept resident (by decide), history⟩

end OverlappingTraffic

end PortMapper
