import PortMapper.Proofs.Request.Fitting
import PortMapper.Proofs.Traffic.Overlapping

/-!
# A lookup echoes the registration

While the session of a node is open, a lookup of the node is answered with the very bytes of its registration
(`OverlappingTraffic.lookup_echoes_registration`).
-/

namespace PortMapper

theorem BigEndian.ofUInt16_inj {n m : UInt16} (same : ofUInt16 n = ofUInt16 m) : n = m := by
  simp only [ofUInt16, List.cons.injEq, and_true] at same
  rw [← toUInt16_ofUInt16 n, same.1, same.2, toUInt16_ofUInt16]

/-! ## Frames that register a name and frames that ask for one -/

namespace Frame

variable {frame body name : Bytes} {byte : UInt8}

/-- The frame registers a name with a port: after the tag come the port, six bytes of codes, the length of the
name, the name, and whatever else the node says. -/
def Registers (frame : Bytes) (port : UInt16) (name : Bytes) : Prop :=
  ∃ codes added, codes.length = 6 ∧ name.length < 65536 ∧
    Delimits frame 120 (BigEndian.ofUInt16 port ++ codes ++
      BigEndian.ofUInt16 (UInt16.ofNat name.length) ++ name ++ added)

/-- The frame asks for a name, which fills it. -/
def AsksFor (frame name : Bytes) : Prop :=
  Delimits frame 122 name

theorem drop_of_delimits (delimits : Delimits frame byte body) : frame.drop 3 = body := by
  obtain ⟨high, low, rfl, _⟩ := delimits
  rfl

theorem length_of_delimits (delimits : Delimits frame byte body) : 1 + body.length ≤ maxShortField := by
  obtain ⟨high, low, _, declared⟩ := delimits
  have bound := (BigEndian.toUInt16 high low).toNat_lt
  rw [declared, List.length_cons] at bound
  rw [maxShortField]
  omega

/-- A frame says which name and which port it registers. -/
theorem Registers.unique {port port' : UInt16} {name' : Bytes} (first : Registers frame port name)
    (second : Registers frame port' name') : port = port' ∧ name = name' := by
  obtain ⟨codes, added, six, fits, high, low, rfl, _⟩ := first
  obtain ⟨codes', added', six', fits', _, _, same, _⟩ := second
  simp only [List.cons.injEq, true_and, List.append_assoc] at same
  obtain ⟨rfl, rfl, same⟩ := same
  obtain ⟨ports, same⟩ := List.append_inj same rfl
  obtain ⟨_, same⟩ := List.append_inj same (six.trans six'.symm)
  obtain ⟨sizes, same⟩ := List.append_inj same rfl
  have size : name.length = name'.length := by
    have equal := congrArg UInt16.toNat (BigEndian.ofUInt16_inj sizes)
    rwa [UInt16.toNat_ofNat', UInt16.toNat_ofNat', Nat.mod_eq_of_lt fits, Nat.mod_eq_of_lt fits'] at equal
  exact ⟨BigEndian.ofUInt16_inj ports, (List.append_inj same size).1⟩

/-- A name that was registered can be asked for. -/
theorem Registers.exists_asksFor {port : UInt16} (registers : Registers frame port name) :
    ∃ query, AsksFor query name := by
  obtain ⟨codes, added, _, _, delimits⟩ := registers
  have whole := length_of_delimits delimits
  simp only [List.length_append] at whole
  have fits : 1 + name.length ≤ maxShortField := by omega
  obtain ⟨query, wrote⟩ : ∃ query, write (Tag.ofByte 122) name = .ok query := write_of_le fits
  exact ⟨query, write_ofByte.mp wrote⟩

theorem decode_of_asksFor (asks : AsksFor frame name) :
    Request.decode frame = .ok (.nodeInfo (Text.Latin1.decode name)) := by
  have wrote : Request.encodeBody (.nodeInfo (Text.Latin1.decode name)) = .ok name :=
    Text.Latin1.encode_decode "name" name
  exact Request.decode_ok.mpr ⟨Request.encode_ok.mpr ⟨name, wrote, asks⟩, rfl⟩

/-- What stands in a frame that reads as a registration. -/
theorem registers_of_decode {node : NodeDescription}
    (decoded : Request.decode frame = .ok (.registration node)) :
    ∃ name, Registers frame node.port name ∧ Text.Latin1.decode name = node.name ∧
      node.encode = .ok (frame.drop 3) := by
  obtain ⟨body, wrote, delimits⟩ := Request.encode_ok.mp (Request.decode_ok.mp decoded).1
  rw [drop_of_delimits delimits]
  obtain ⟨name, nameField, extraField, latin, named, _, layout⟩ := NodeDescription.encode_ok.mp wrote
  obtain ⟨fits, rfl⟩ := shortField_ok.mp named
  let codes := node.nodeType.toByte :: node.protocol.toByte ::
    (BigEndian.ofUInt16 node.highest.toWord ++ BigEndian.ofUInt16 node.lowest.toWord)
  refine ⟨name, ⟨codes, extraField, rfl, Nat.lt_succ_of_le fits, ?_⟩, Text.Latin1.decode_encode latin, wrote⟩
  simp only [codes, List.append_assoc, List.cons_append] at layout ⊢
  exact layout ▸ delimits

end Frame

/-! ## Answers to lookups -/

namespace Dispatcher

variable {dispatcher : Dispatcher} {answers : SocketAddress → Bool} {registry : Registry}
  {session : Session} {name : Text} {node : Node}

theorem conclude_nodeInfo_of_alive (found : registry.find? name = some node)
    (alive : registry.isAlive answers node = true) (later : Registry) :
    dispatcher.conclude answers later (inquire registry session (.nodeInfo name)) =
      ((NodeInfo.found node.description).encode.map (·, .close), later) := by
  have verdicts : registry.verdicts answers (toCheck registry (.nodeInfo name)) = [(node, true)] := by
    rw [toCheck, found, registry.verdicts_eq, Option.toList_some, List.map_singleton, alive]
  change dispatcher.answer later session
    (registry.verdicts answers (toCheck registry (.nodeInfo name))) (.nodeInfo name) = _
  rw [verdicts]
  rfl

theorem conclude_nodeInfo_of_none (missing : registry.find? name = none) (later : Registry) :
    dispatcher.conclude answers later (inquire registry session (.nodeInfo name)) =
      (.ok ([119, 1], .close), later) := by
  rw [inquire, toCheck, missing]
  rfl

/-- A node that is told that it may hold its name has the name then. -/
theorem find?_of_accepted {inquiry : Inquiry} {reply : Bytes} {held : Text}
    (accepted : (dispatcher.conclude answers registry inquiry).1 =
      .ok (reply, .holdRegistration held)) :
    ∃ node creation, inquiry.request = .registration node ∧
      (dispatcher.conclude answers registry inquiry).2.find? node.name =
        some ⟨node, creation, inquiry.session⟩ := by
  obtain ⟨node, asked, _, _, _, put⟩ := answer_accepts accepted (.inr ⟨held, rfl⟩)
  refine ⟨node, registry.counter.draw.1, asked, ?_⟩
  rw [conclude, put]
  exact Registry.find?_accept_self _ _ _ _

end Dispatcher

namespace OverlappingTraffic

variable {dispatcher : Dispatcher} {before after : OverlappingTraffic}

/-! ## The echo -/

/-- A node registers in a frame, and anything else happens then. As long as its session is open, a lookup of the
name in the frame, while somebody answers at the port in the frame on the host of the session, gets the frame
without its length and its tag. In any registry, a lookup of a name that nobody has is told so. What happens between
a lookup and its answer makes no difference. -/
theorem lookup_echoes_registration {place : Nat} {inquiry : Inquiry} {frame reply : Bytes}
    {answers : SocketAddress → Bool} {held : Text} {events : List OverlappingEvent}
    (asked : before.waiting[place]? = some inquiry) (sent : Request.decode frame = .ok inquiry.request)
    (accepted : (dispatcher.conclude answers before.registry inquiry).1 =
      .ok (reply, .holdRegistration held))
    (run : before.run dispatcher (.answer place answers :: events) = some after)
    (isOpen : after.registry.isOpen inquiry.session = true) :
    (∃ port name query, Frame.Registers frame port name ∧ Frame.AsksFor query name) ∧
    (∀ port name query, Frame.Registers frame port name → Frame.AsksFor query name →
      ∀ asker answers, answers { ip := inquiry.session.peer.ip, port } = true →
        ∃ request, Request.decode query = .ok request ∧ ∀ later,
          dispatcher.conclude answers later (Dispatcher.inquire after.registry asker request) =
            (.ok (119 :: 0 :: frame.drop 3, .close), later)) ∧
    (∀ (registry : Registry) name query, Frame.AsksFor query name →
      registry.find? (Text.Latin1.decode name) = none → ∀ asker answers,
        ∃ request, Request.decode query = .ok request ∧ ∀ later,
          dispatcher.conclude answers later (Dispatcher.inquire registry asker request) =
            (.ok ([119, 1], .close), later)) := by
  obtain ⟨node, creation, request, put⟩ := Dispatcher.find?_of_accepted accepted
  rw [request] at sent
  obtain ⟨word, registers, spelled, wrote⟩ := Frame.registers_of_decode sent
  obtain ⟨middle, step, rest⟩ := run_cons.mp run
  obtain ⟨_, same, ⟨⟩⟩ := Option.bind_eq_some_iff.mp step
  cases asked.symm.trans same
  let registered : Node := ⟨node, creation, inquiry.session⟩
  have holds : Registry.Holds _ registered := fun _ => put
  have found : after.registry.find? node.name = some registered := holds_of_run rest holds isOpen
  refine ⟨?_, ?_, ?_⟩
  · obtain ⟨query, asks⟩ := registers.exists_asksFor
    exact ⟨node.port, word, query, registers, asks⟩
  · intro port name query sameFrame asks asker answers responds
    obtain ⟨rfl, rfl⟩ := registers.unique sameFrame
    have alive : after.registry.isAlive answers registered = true := by
      rw [Registry.isAlive, isOpen]
      exact responds
    rw [← spelled] at found
    refine ⟨_, Frame.decode_of_asksFor asks, fun later => ?_⟩
    rw [Dispatcher.conclude_nodeInfo_of_alive found alive, NodeInfo.encode, wrote]
    rfl
  · intro registry name query asks missing asker answers
    exact ⟨_, Frame.decode_of_asksFor asks, Dispatcher.conclude_nodeInfo_of_none missing⟩

/-- Another session begins a listing, is refused the same name, gets another one, and its listing ends with only the
first node alive. -/
def intrusions : List OverlappingEvent :=
  [.openSession ⟨.loopback, 40001, 0⟩, .frame 2 [0, 1, 110],
    .frame 2 [0, 14, 120, 0, 10, 110, 0, 0, 5, 0, 5, 0, 1, 233, 0, 0], .answer 0 fun _ => true,
    .frame 2 [0, 14, 120, 0, 10, 110, 0, 0, 5, 0, 5, 0, 1, 98, 0, 0], .answer 0 fun _ => true,
    .answer 0 fun address => address.port = 9]

/-- A node with codes that have no names, a name beyond ASCII and two bytes more is echoed as it registered. -/
theorem lookup_echoes_registration_of_intrusions :
    let frame : Bytes := [0, 16, 120, 0, 9, 1, 7, 0, 9, 0, 4, 0, 1, 233, 0, 2, 255, 0]
    ∃ before after,
      (start 1).run ⟨true, 4369⟩ [.openSession ⟨.loopback, 40000, 0⟩, .frame 1 frame] = some before ∧
      before.run ⟨true, 4369⟩ (.answer 0 (fun _ => true) :: intrusions) = some after ∧
      ∃ request, Request.decode [0, 2, 122, 233] = .ok request ∧ ∀ later,
        Dispatcher.conclude ⟨true, 4369⟩ (fun address => address.port = 9) later
            (Dispatcher.inquire after.registry ⟨3, ⟨.loopback, 40002, 0⟩⟩ request) =
          (.ok ([119, 0, 0, 9, 1, 7, 0, 9, 0, 4, 0, 1, 233, 0, 2, 255, 0], .close), later) := by
  intro frame
  let arrived := (start 1).run ⟨true, 4369⟩ [.openSession ⟨.loopback, 40000, 0⟩, .frame 1 frame]
  let before := arrived.get (by decide)
  let ran := before.run ⟨true, 4369⟩ (.answer 0 (fun _ => true) :: intrusions)
  let after := ran.get (by decide)
  have run : ran = some after := (Option.some_get _).symm
  let inquiry : Inquiry :=
    ⟨⟨1, ⟨.loopback, 40000, 0⟩⟩, .registration ⟨9, .unknown 1, .unknown 7, .unknown 9, .unknown 4, ['é'], [255, 0]⟩, []⟩
  have asked : before.waiting[0]? = some inquiry := by decide
  have sent : Request.decode frame = .ok inquiry.request := by rfl
  have registers : Frame.Registers frame 9 [233] :=
    ⟨[1, 7, 0, 9, 0, 4], [0, 2, 255, 0], rfl, by decide, 0, 16, rfl, rfl⟩
  have asks : Frame.AsksFor [0, 2, 122, 233] [233] := ⟨0, 2, rfl, rfl⟩
  have echoes := (lookup_echoes_registration asked sent (by rfl) run (by decide)).2.1
  exact ⟨before, after, (Option.some_get _).symm, run, echoes 9 [233] _ registers asks _ _ (by decide)⟩

end OverlappingTraffic

end PortMapper
