import PortMapper.Proofs.Dispatcher
import PortMapper.Proofs.Registry.Holding
import PortMapper.Traffic.Overlapping

/-!
# What overlapping traffic keeps

An open session keeps its name through all traffic, whichever requests overlap
(`OverlappingTraffic.holds_of_run`). Traffic whose requests are answered at once is overlapping traffic in which
no request waits long (`Traffic.overlapping_of_run`), so that what is shown of the one holds of the other.
-/

namespace PortMapper

/-! ## Names -/

namespace Dispatcher

variable {dispatcher : Dispatcher} {registry : Registry} {node : Node}

/-- Whatever is asked, an open session keeps its name. -/
theorem holds_of_conclude (answers : SocketAddress → Bool) (inquiry : Inquiry)
    (holds : registry.Holds node) : (dispatcher.conclude answers registry inquiry).2.Holds node := by
  rcases dispatcher.answer_cases registry inquiry.session
      (inquiry.checks.map (·.verdict fun node => answers node.probeAddress)) inquiry.request with
    ⟨description, _, stale, answered⟩ | ⟨⟨nodes, retires, _⟩, _⟩
  · rw [conclude, answered]
    exact Registry.holds_of_accept stale holds
  · exact Registry.holds_of_retires retires holds

end Dispatcher

namespace OverlappingTraffic

variable {dispatcher : Dispatcher} {before after : OverlappingTraffic} {node : Node}

theorem registry_receive (traffic : OverlappingTraffic) (session : Session) (frame : Bytes) :
    (traffic.receive session frame).registry = traffic.registry := by
  unfold receive
  split <;> rfl

theorem holds_of_step {event : OverlappingEvent} (holds : before.registry.Holds node)
    (step : before.step dispatcher event = some after) : after.registry.Holds node := by
  cases event with
  | openSession peer =>
    obtain ⟨id, _, ⟨⟩⟩ := Option.bind_eq_some_iff.mp step
    exact holds
  | frame id frame =>
    obtain ⟨session, _, ⟨⟩⟩ := Option.bind_eq_some_iff.mp step
    rw [registry_receive]
    exact holds
  | answer place answers =>
    obtain ⟨inquiry, _, ⟨⟩⟩ := Option.bind_eq_some_iff.mp step
    exact Dispatcher.holds_of_conclude answers inquiry holds
  | closeSession id =>
    obtain ⟨session, _, ⟨⟩⟩ := Option.bind_eq_some_iff.mp step
    exact Registry.holds_of_close session holds
  | release id name =>
    cases step
    exact Registry.holds_of_retires (before.registry.removeSession_retires name id) holds

theorem holds_of_run {events : List OverlappingEvent} (run : before.run dispatcher events = some after)
    (holds : before.registry.Holds node) : after.registry.Holds node :=
  PortMapper.holds_of_run (motive := fun traffic => traffic.registry.Holds node) holds_of_step run holds

end OverlappingTraffic

/-! ## Requests that do not wait -/

namespace Traffic

variable {dispatcher : Dispatcher} {before after : Traffic}

/-- The same traffic, with no request waiting. -/
def overlapping (traffic : Traffic) : OverlappingTraffic :=
  ⟨traffic.registry, traffic.sessions, []⟩

/-- A frame that is answered at once arrives and is then answered, if it is a request. -/
theorem overlapping_of_frame {id : UInt64} {session : Session} (frame : Bytes)
    (answers : SocketAddress → Bool) (opened : before.sessions.session? id = some session) :
    ∃ events, before.overlapping.run dispatcher events =
      some { before with
        registry := (dispatcher.receive answers before.registry session frame).2 }.overlapping := by
  have arrival : before.overlapping.step dispatcher (.frame id frame) =
      some (before.overlapping.receive session frame) :=
    Option.bind_eq_some_iff.mpr ⟨session, opened, rfl⟩
  cases decoded : Request.decode frame with
  | error e =>
    refine ⟨[.frame id frame], run_cons.mpr ⟨_, arrival, ?_⟩⟩
    rw [OverlappingTraffic.receive, Dispatcher.receive, decoded]
    rfl
  | ok request =>
    refine ⟨[.frame id frame, .answer 0 answers], run_cons.mpr ⟨_, arrival, ?_⟩⟩
    rw [OverlappingTraffic.receive, Dispatcher.receive, decoded]
    exact congrArg
      (fun concluded : Answer × Registry => some (OverlappingTraffic.mk concluded.2 before.sessions []))
      (dispatcher.conclude_inquire answers before.registry session request)

theorem overlapping_of_step {event : TrafficEvent} (step : before.step dispatcher event = some after) :
    ∃ events, before.overlapping.run dispatcher events = some after.overlapping := by
  cases event with
  | openSession peer =>
    obtain ⟨id, free, ⟨⟩⟩ := Option.bind_eq_some_iff.mp step
    exact ⟨[.openSession peer], run_cons.mpr ⟨_, Option.bind_eq_some_iff.mpr ⟨id, free, rfl⟩, rfl⟩⟩
  | frame id frame answers =>
    obtain ⟨session, opened, ⟨⟩⟩ := Option.bind_eq_some_iff.mp step
    exact overlapping_of_frame frame answers opened
  | closeSession id =>
    obtain ⟨session, opened, ⟨⟩⟩ := Option.bind_eq_some_iff.mp step
    exact ⟨[.closeSession id], run_cons.mpr ⟨_, Option.bind_eq_some_iff.mpr ⟨session, opened, rfl⟩, rfl⟩⟩
  | release id name =>
    cases step
    exact ⟨[.release id name], rfl⟩

/-- Traffic whose requests do not overlap is overlapping traffic. -/
theorem overlapping_of_run {events : List TrafficEvent} (run : before.run dispatcher events = some after) :
    ∃ events, before.overlapping.run dispatcher events = some after.overlapping := by
  induction events generalizing before with
  | nil =>
    cases run
    exact ⟨[], rfl⟩
  | cons event events ih =>
    obtain ⟨middle, step, rest⟩ := run_cons.mp run
    obtain ⟨first, reached⟩ := overlapping_of_step step
    obtain ⟨more, ended⟩ := ih rest
    refine ⟨first ++ more, ?_⟩
    rw [OverlappingTraffic.run, List.foldlM_append]
    exact Option.bind_eq_some_iff.mpr ⟨_, reached, ended⟩

end Traffic

end PortMapper
