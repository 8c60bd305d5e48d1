import PortMapper.Proofs.Registry.Listing
import PortMapper.Proofs.Reply.Dump
import PortMapper.Proofs.Reply.Names
import PortMapper.Proofs.Traffic.Framed

/-!
# Listings tell the truth

Whatever the traffic was, a names request and a dump request are answered, and the answer reads back as what
is in the registry exactly if no name in it holds a line feed (`listing_is_exact_iff`). Nothing keeps a node
from registering such a name, and its line then reads as several (`listing_shows_forged_nodes`).
-/

namespace PortMapper

theorem Registry.Framed.alive {registry : Registry} (framed : registry.Framed)
    (answers : SocketAddress → Bool) : ∀ node ∈ registry.alive answers, node.Framed :=
  fun node live => framed.nodes node (List.mem_filter.mp live).1

namespace Dispatcher

variable (dispatcher : Dispatcher) (answers : SocketAddress → Bool) (session : Session)
  {registry : Registry}

theorem dispatch_names (registry : Registry) :
    dispatcher.dispatch answers registry session .names =
      ((dispatcher.nameListing (registry.alive answers)).encode.map (·, .close),
        (registry.list answers).2) := by
  rw [← registry.list_nodes answers]
  rfl

theorem dispatch_dump (registry : Registry) :
    dispatcher.dispatch answers registry session .dump =
      ((dispatcher.dump (registry.alive answers) (registry.list answers).2.history).encode.map
          (·, .close),
        (registry.list answers).2) := by
  rw [← registry.list_nodes answers]
  rfl

section Framed

variable {nodes : List Node} (framed : ∀ node ∈ nodes, node.Framed)

include framed

/-- Nodes that came in frames can be listed. -/
theorem exists_encode_nameListing : ∃ reply, (dispatcher.nameListing nodes).encode = .ok reply := by
  refine NameListing.exists_encode.mpr fun entry member => ?_
  obtain ⟨node, listed, rfl⟩ := List.mem_map.mp member
  exact (framed node listed).isLatin1

theorem exists_encode_dump {history : History}
    (past : ∀ retirement ∈ history.entries, ∃ node : Node, node.Framed ∧ node.retirement = retirement) :
    ∃ reply, (dispatcher.dump nodes history).encode = .ok reply := by
  refine Dump.exists_encode.mpr (List.forall_mem_append.mpr ⟨?_, ?_⟩)
  · intro entry member
    obtain ⟨node, listed, rfl⟩ := List.mem_map.mp member
    exact (framed node listed).isLatin1
  · intro entry member
    obtain ⟨retirement, ended, rfl⟩ := List.mem_map.mp member
    obtain ⟨node, came, rfl⟩ := past retirement ended
    exact came.isLatin1

end Framed

/-- A names request is answered, and the answer reads back unless a name holds a line feed. -/
theorem exists_names_reply (framed : registry.Framed) :
    ∃ reply, dispatcher.dispatch answers registry session .names =
        (.ok (reply, .close), (registry.list answers).2) ∧
      (NameListing.decode reply = .ok (dispatcher.nameListing (registry.alive answers)) ↔
        ∀ node ∈ registry.alive answers, '\n' ∉ node.name) := by
  obtain ⟨reply, wrote⟩ := dispatcher.exists_encode_nameListing (framed.alive answers)
  refine ⟨reply, ?_, ?_⟩
  · rw [dispatch_names, wrote]
    rfl
  · rw [NameListing.decode_encode_iff wrote]
    exact List.forall_mem_map

/-- A dump request is answered, and the answer reads back unless a name holds a line feed. -/
theorem exists_dump_reply (framed : registry.Framed) :
    ∃ reply, dispatcher.dispatch answers registry session .dump =
        (.ok (reply, .close), (registry.list answers).2) ∧
      (Dump.decode reply =
          .ok (dispatcher.dump (registry.alive answers) (registry.list answers).2.history) ↔
        (∀ node ∈ registry.alive answers, '\n' ∉ node.name) ∧
          ∀ retirement ∈ (registry.list answers).2.history.entries, '\n' ∉ retirement.name) := by
  have after := Registry.framed_of_retires (registry.list_retires answers) framed
  obtain ⟨reply, wrote⟩ := dispatcher.exists_encode_dump (framed.alive answers) after.history
  refine ⟨reply, ?_, ?_⟩
  · rw [dispatch_dump, wrote]
    rfl
  · rw [Dump.decode_encode_iff wrote]
    exact List.forall_mem_append.trans (and_congr List.forall_mem_map List.forall_mem_map)

end Dispatcher

namespace Traffic

/-! ## The truth of listings -/

/-- Whatever the traffic was, both listings are answered. A name listing reads back as the nodes that are
alive, in ascending order of their names, exactly if none of these names holds a line feed. A dump reads back as
these nodes and the history, in which those that were found dead are the last, exactly if no name in it
holds a line feed. -/
theorem listing_is_exact_iff {dispatcher : Dispatcher} {traffic : Traffic}
    (reachable : traffic.Reachable dispatcher) (answers : SocketAddress → Bool) (session : Session) :
    ∃ names dump after,
      dispatcher.dispatch answers traffic.registry session .names = (.ok (names, .close), after) ∧
      dispatcher.dispatch answers traffic.registry session .dump = (.ok (dump, .close), after) ∧
      Node.Ascending (traffic.registry.alive answers) ∧
      after.table.nodes = traffic.registry.alive answers ∧
      after.history.entries =
        (traffic.registry.history.entries ++
          (traffic.registry.dead answers).map Node.retirement).drop
            (traffic.registry.history.entries.length + (traffic.registry.dead answers).length -
              History.capacity) ∧
      (NameListing.decode names =
          .ok ⟨dispatcher.port.toUInt32,
            (traffic.registry.alive answers).map fun node => ⟨node.name, node.port⟩⟩ ↔
        ∀ node ∈ traffic.registry.alive answers, '\n' ∉ node.name) ∧
      (Dump.decode dump =
          .ok ⟨dispatcher.port.toUInt32,
            (traffic.registry.alive answers).map
                (fun node => ⟨.active, node.name, node.port, node.session.id⟩) ++
              after.history.entries.map fun retirement =>
                ⟨.oldUnused, retirement.name, retirement.port, retirement.session⟩⟩ ↔
        (∀ node ∈ traffic.registry.alive answers, '\n' ∉ node.name) ∧
          ∀ retirement ∈ after.history.entries, '\n' ∉ retirement.name) := by
  have framed := framed_of_reachable reachable
  obtain ⟨names, namesReply, namesRead⟩ := dispatcher.exists_names_reply answers session framed
  obtain ⟨dump, dumpReply, dumpRead⟩ := dispatcher.exists_dump_reply answers session framed
  exact ⟨names, dump, (traffic.registry.list answers).2, namesReply, dumpReply,
    traffic.registry.alive_ascending answers, traffic.registry.list_table answers,
    traffic.registry.list_history answers, namesRead, dumpRead⟩

/-- A node registers a name with the words of a listing and a carriage return in it, another one closes its
session after it registered. -/
def separators : List TrafficEvent :=
  [.openSession ⟨.loopback, 40000, 0⟩,
    .frame 1 [0, 25, 120, 0, 9, 110, 0, 0, 5, 0, 5, 0, 12, 97, 32, 97, 116, 32, 112, 111, 114, 116, 32,
      49, 13, 0, 0] fun _ => true,
    .openSession ⟨.loopback, 40001, 0⟩,
    .frame 2 [0, 14, 120, 0, 10, 110, 0, 0, 5, 0, 5, 0, 1, 98, 0, 0] fun _ => true,
    .closeSession 2]

/-- Both nodes are listed as they are. -/
theorem listing_is_exact_of_separators :
    ∃ traffic names dump after, (start 1).run ⟨false, 4369⟩ separators = some traffic ∧
      Dispatcher.dispatch ⟨false, 4369⟩ (fun _ => true) traffic.registry ⟨3, ⟨.loopback, 40002, 0⟩⟩
        .names = (.ok (names, .close), after) ∧
      Dispatcher.dispatch ⟨false, 4369⟩ (fun _ => true) traffic.registry ⟨3, ⟨.loopback, 40002, 0⟩⟩
        .dump = (.ok (dump, .close), after) ∧
      NameListing.decode names = .ok ⟨4369, [⟨"a at port 1\r".toList, 9⟩]⟩ ∧
      Dump.decode dump =
        .ok ⟨4369, [⟨.active, "a at port 1\r".toList, 9, 1⟩, ⟨.oldUnused, ['b'], 10, 2⟩]⟩ := by
  let traffic := ((start 1).run ⟨false, 4369⟩ separators).get (by decide)
  have ran : (start 1).run ⟨false, 4369⟩ separators = some traffic := (Option.some_get _).symm
  obtain ⟨names, dump, after, namesReply, dumpReply, _, _, history, namesRead, dumpRead⟩ :=
    listing_is_exact_iff ⟨1, separators, ran⟩ (fun _ => true) ⟨3, ⟨.loopback, 40002, 0⟩⟩
  have alive : traffic.registry.alive (fun _ => true) =
      [⟨{ port := 9, name := "a at port 1\r".toList }, 1, ⟨1, ⟨.loopback, 40000, 0⟩⟩⟩] := by decide
  have past : after.history.entries = [⟨['b'], 10, 2⟩] := by
    rw [history]
    decide
  rw [alive, past] at dumpRead
  rw [alive] at namesRead
  exact ⟨traffic, names, dump, after, ran, namesReply, dumpReply, namesRead.mpr (by decide),
    dumpRead.mpr (by decide)⟩

/-! ## Names with line feeds -/

/-- A node registers a name that goes on in a second line. -/
def forging : List TrafficEvent :=
  [.openSession ⟨.loopback, 40000, 0⟩,
    .frame 1 [0, 31, 120, 0, 9, 110, 0, 0, 5, 0, 5, 0, 18, 97, 32, 97, 116, 32, 112, 111, 114, 116, 32, 49,
      10, 110, 97, 109, 101, 32, 98, 0, 0] fun _ => true]

/-- The only node is not listed, and two that are not registered are. -/
theorem listing_shows_forged_nodes :
    ∃ traffic reply after, (start 1).run ⟨false, 4369⟩ forging = some traffic ∧
      ((traffic.registry.alive fun _ => true).map fun node => (⟨node.name, node.port⟩ : NamedPort)) =
        [⟨"a at port 1\nname b".toList, 9⟩] ∧
      Dispatcher.dispatch ⟨false, 4369⟩ (fun _ => true) traffic.registry ⟨2, ⟨.loopback, 40001, 0⟩⟩
        .names = (.ok (reply, .close), after) ∧
      NameListing.decode reply = .ok ⟨4369, [⟨['a'], 1⟩, ⟨['b'], 9⟩]⟩ := by
  let traffic := ((start 1).run ⟨false, 4369⟩ forging).get (by decide)
  have ran : (start 1).run ⟨false, 4369⟩ forging = some traffic := (Option.some_get _).symm
  have alive : (traffic.registry.alive fun _ => true) =
      [⟨{ port := 9, name := "a at port 1\nname b".toList }, 1, ⟨1, ⟨.loopback, 40000, 0⟩⟩⟩] := by decide
  let lines := "name a at port 1\nname b at port 9".toList
  refine ⟨traffic, BigEndian.ofUInt32 4369 ++ lines.map fun c => UInt8.ofNat c.toNat,
    (traffic.registry.list fun _ => true).2, ran, ?_, ?_, rfl⟩
  · rw [alive]
    rfl
  · rw [Dispatcher.dispatch_names, alive]
    rfl

end Traffic

end PortMapper
