import PortMapper.Traffic
import PortMapper.Proofs.Dispatcher
import PortMapper.Proofs.Registry.History
import PortMapper.Proofs.Request.Canonical

/-!
# Where names come from

Whatever the traffic was, each node of the registry came in a frame, and so did each node that its history
remembers (`framed_of_reachable`). What came in a frame can be written again: its name is Latin-1
(`Node.Framed.isLatin1`).
-/

namespace PortMapper

/-- Some frame reads as the registration of the node. -/
def Node.Framed (node : Node) : Prop :=
  ∃ frame, Request.decode frame = .ok (.registration node.description)

theorem Node.Framed.isLatin1 {node : Node} (framed : node.Framed) :
    ∀ c ∈ node.name, Text.Latin1.isLatin1 c = true := by
  obtain ⟨frame, decoded⟩ := framed
  obtain ⟨body, wrote, _⟩ := Request.encode_ok.mp (Request.decode_ok.mp decoded).1
  obtain ⟨name, _, _, latin, _⟩ := NodeDescription.encode_ok.mp wrote
  exact Text.Latin1.exists_encode.mp ⟨name, latin⟩

namespace Registry

/-- The registered nodes came in frames, and so did those in the history. -/
structure Framed (registry : Registry) : Prop where
  nodes : ∀ node ∈ registry.table.nodes, node.Framed
  history : ∀ retirement ∈ registry.history.entries,
    ∃ node : Node, node.Framed ∧ node.retirement = retirement

variable {registry after : Registry}

theorem framed_empty (seed : UInt16) : (empty seed).Framed where
  nodes := fun _ member => absurd member List.not_mem_nil
  history := fun _ member => absurd member List.not_mem_nil

theorem framed_of_retires {nodes : List Node} (retires : registry.Retires nodes after)
    (framed : registry.Framed) : after.Framed where
  nodes := fun node member => framed.nodes node (retires.mem_nodes.mp member).1
  history := by
    intro retirement member
    rw [retires.history] at member
    rcases History.mem_foldl_push member with old | new
    · exact framed.history retirement old
    · obtain ⟨node, retired, same⟩ := List.mem_map.mp new
      exact ⟨node, framed.nodes node (retires.subset retired), same⟩

theorem framed_of_accept {frame : Bytes} {node : NodeDescription} (session : Session)
    (decoded : Request.decode frame = .ok (.registration node)) (framed : registry.Framed) :
    (registry.accept (registry.find? node.name) node session).2.Framed where
  nodes := by
    intro other member
    rcases NodeTable.mem_place member with rfl | old
    · exact ⟨frame, decoded⟩
    · exact framed.nodes other old
  history := by
    intro retirement member
    rw [history_accept] at member
    rcases History.mem_foldl_push member with old | new
    · exact framed.history retirement old
    · obtain ⟨stale, found, same⟩ := List.mem_map.mp new
      exact ⟨stale, framed.nodes stale (find?_eq_some_iff.mp (Option.mem_toList.mp found)).1, same⟩

theorem framed_of_close (session : Session) (framed : registry.Framed) :
    (registry.close session).Framed :=
  ⟨framed.nodes, framed.history⟩

end Registry

/-! ## What a frame does -/

namespace Dispatcher

variable {dispatcher : Dispatcher} {registry : Registry}

/-- The answer to a request that came in a frame keeps it so that every node came in a frame. -/
theorem framed_of_answer {frame : Bytes} {request : Request} (framed : registry.Framed)
    (decoded : Request.decode frame = .ok request) (session : Session) (verdicts : List Verdict) :
    (dispatcher.answer registry session verdicts request).2.Framed := by
  rcases dispatcher.answer_cases registry session verdicts request with
    ⟨node, rfl, _, answered⟩ | ⟨⟨nodes, retires, _⟩, _⟩
  · rw [answered]
    exact Registry.framed_of_accept session decoded framed
  · exact Registry.framed_of_retires retires framed

theorem framed_of_receive (framed : registry.Framed) (answers : SocketAddress → Bool) (session : Session)
    (frame : Bytes) : (dispatcher.receive answers registry session frame).2.Framed := by
  unfold receive
  split
  · next decoded => exact framed_of_answer framed decoded session _
  · exact framed

end Dispatcher

namespace Traffic

theorem framed_of_step {dispatcher : Dispatcher} {before after : Traffic} {event : TrafficEvent}
    (framed : before.registry.Framed) (step : before.step dispatcher event = some after) :
    after.registry.Framed := by
  cases event with
  | openSession peer =>
    obtain ⟨id, _, ⟨⟩⟩ := Option.bind_eq_some_iff.mp step
    exact framed
  | frame id frame answers =>
    obtain ⟨session, _, ⟨⟩⟩ := Option.bind_eq_some_iff.mp step
    exact Dispatcher.framed_of_receive framed answers session frame
  | closeSession id =>
    obtain ⟨session, _, ⟨⟩⟩ := Option.bind_eq_some_iff.mp step
    exact Registry.framed_of_close session framed
  | release id name =>
    cases step
    exact Registry.framed_of_retires (before.registry.removeSession_retires name id) framed

/-- Whatever the traffic was, every node came in a frame. -/
theorem framed_of_reachable {dispatcher : Dispatcher} {traffic : Traffic}
    (reachable : traffic.Reachable dispatcher) : traffic.registry.Framed := by
  obtain ⟨seed, events, run⟩ := reachable
  exact holds_of_run (motive := fun traffic => traffic.registry.Framed) framed_of_step run
    (Registry.framed_empty seed)

end Traffic

end PortMapper
