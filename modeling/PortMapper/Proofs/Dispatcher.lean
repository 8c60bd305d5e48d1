import PortMapper.Dispatcher
import PortMapper.Proofs.Registry.Activity
import PortMapper.Proofs.Registry.Listing
import PortMapper.Proofs.Reply.Listing

/-!
# What an answer does

Answering a request registers a node or retires some. Only a node that was put into the table is told so, and only
its connection holds a name then (`answer_cases`, `answer_accepts`).
-/

namespace PortMapper

namespace Dispatcher

variable {dispatcher : Dispatcher} {registry : Registry} {session : Session} {verdicts : List Verdict}
  {request : Request} {reply : Bytes} {action : Action}

/-- A request other than a registration retires nodes, or none. -/
theorem retires_of_answer (other : request.kind ≠ .registration) :
    ∃ nodes, registry.Retires nodes (dispatcher.answer registry session verdicts request).2 ∧
      (Node.Ascending (verdicts.map (·.1)) → Node.Ascending nodes) := by
  cases request with
  | registration node => exact absurd rfl other
  | nodeInfo | names | dump => exact registry.settle_retires verdicts
  | kill =>
    simp only [answer]
    split
    · exact ⟨_, registry.clear_retires, fun _ => registry.table.ascending⟩
    · exact ⟨[], .none, fun _ => .nil⟩
  | stop name =>
    have retires := registry.remove_retires name
    simp only [answer]
    split
    · refine ⟨(registry.find? name).toList, ?_, fun _ => Node.Ascending.toList _⟩
      split <;> simp_all
    · exact ⟨[], .none, fun _ => .nil⟩

theorem toCheck_ascending (registry : Registry) (request : Request) :
    Node.Ascending (toCheck registry request) := by
  cases request with
  | nodeInfo name => exact Node.Ascending.toList _
  | names | dump => exact registry.table.ascending
  | registration | kill | stop => exact .nil

/-! ## Which answers accept a registration -/

theorem closes_of_map {result : Except WireError Bytes}
    (answered : result.map (·, Action.close) = .ok (reply, action)) :
    result = .ok reply ∧ action = .close := by
  cases result with
  | ok bytes =>
    cases answered
    exact ⟨rfl, rfl⟩
  | error error => cases answered

theorem head_nodeInfo {info : NodeInfo} (wrote : info.encode = .ok reply) : reply.head? = some 119 := by
  cases info with
  | found node =>
    obtain ⟨body, _, ⟨⟩⟩ := bind_eq_ok.mp wrote
    rfl
  | notFound =>
    cases wrote
    rfl

/-- The port in front of a listing is one of 16 bits, so the listing begins with a zero. -/
theorem head_listing {port : UInt16} {lines : List Text}
    (wrote : Listing.encode port.toUInt32 lines = .ok reply) : reply.head? = some 0 := by
  obtain ⟨body, _, rfl⟩ := Listing.encode_ok.mp wrote
  have small : port.toUInt32.toNat / 16777216 = 0 := by
    have bound := port.toNat_lt
    rw [UInt16.toNat_toUInt32]
    omega
  rw [BigEndian.ofUInt32, small]
  rfl

theorem head_of_answer (other : request.kind ≠ .registration)
    (answered : (dispatcher.answer registry session verdicts request).1 = .ok (reply, action)) :
    reply.head? ≠ some 121 ∧ ∀ held, action ≠ .holdRegistration held := by
  cases request with
  | registration node => exact absurd rfl other
  | nodeInfo name =>
    obtain ⟨wrote, rfl⟩ := closes_of_map answered
    rw [head_nodeInfo wrote]
    exact ⟨by decide, nofun⟩
  | names | dump =>
    obtain ⟨wrote, rfl⟩ := closes_of_map answered
    rw [head_listing wrote]
    exact ⟨by decide, nofun⟩
  | kill =>
    simp only [answer] at answered
    split at answered <;> cases answered <;> exact ⟨by decide, nofun⟩
  | stop name =>
    simp only [answer] at answered
    split at answered
    · split at answered <;> cases answered <;> exact ⟨by decide, nofun⟩
    · cases answered
      exact ⟨by decide, nofun⟩

/-- A node is put under its name and told so, or nodes are retired (none, for a registration that is refused) and
nobody is told to hold a name. -/
theorem answer_cases (dispatcher : Dispatcher) (registry : Registry) (session : Session)
    (verdicts : List Verdict) (request : Request) :
    (∃ node, request = .registration node ∧
        (∀ holder, registry.find? node.name = some holder → registry.isOpen holder.session = false) ∧
        dispatcher.answer registry session verdicts request =
          (.ok ((RegistrationReply.accept registry.counter.draw.1).encode, .holdRegistration node.name),
            (registry.accept (registry.find? node.name) node session).2)) ∨
      ((∃ nodes, registry.Retires nodes (dispatcher.answer registry session verdicts request).2 ∧
          (Node.Ascending (verdicts.map (·.1)) → Node.Ascending nodes)) ∧
        ∀ reply action, (dispatcher.answer registry session verdicts request).1 = .ok (reply, action) →
          (∀ creation, reply ≠ (RegistrationReply.accept creation).encode) ∧
          ∀ held, action ≠ .holdRegistration held) := by
  cases request with
  | registration node =>
    rcases registry.register_cases node session with ⟨_, refused⟩ | ⟨stale, registered⟩
    · have answered : dispatcher.answer registry session verdicts (.registration node) =
          (.ok (RegistrationReply.refuse.encode, .close), registry) := by
        simp only [answer, refused]
      rw [answered]
      refine .inr ⟨⟨[], .none, fun _ => .nil⟩, ?_⟩
      rintro reply action ⟨⟩
      exact ⟨nofun, nofun⟩
    · refine .inl ⟨node, rfl, stale, ?_⟩
      simp only [answer, registered, Registry.accept]
  | nodeInfo | names | dump | kill | stop =>
    refine .inr ⟨retires_of_answer (by simp [Request.kind]), fun reply action answered => ?_⟩
    obtain ⟨head, hold⟩ := head_of_answer (by simp [Request.kind]) answered
    refine ⟨?_, hold⟩
    rintro creation rfl
    exact head rfl

/-- An answer that accepts a registration, or makes the connection hold a name, is the one to a node that has
just been put under this name. -/
theorem answer_accepts
    (answered : (dispatcher.answer registry session verdicts request).1 = .ok (reply, action))
    (accepting : (∃ creation, reply = (RegistrationReply.accept creation).encode) ∨
      ∃ held, action = .holdRegistration held) :
    ∃ node, request = .registration node ∧ action = .holdRegistration node.name ∧
      reply = (RegistrationReply.accept registry.counter.draw.1).encode ∧
      (∀ holder, registry.find? node.name = some holder → registry.isOpen holder.session = false) ∧
      (dispatcher.answer registry session verdicts request).2 =
        (registry.accept (registry.find? node.name) node session).2 := by
  rcases dispatcher.answer_cases registry session verdicts request with
    ⟨node, same, stale, answer⟩ | ⟨_, other⟩
  · rw [answer] at answered ⊢
    cases answered
    exact ⟨node, same, rfl, rfl, stale, rfl⟩
  · obtain ⟨refuses, closes⟩ := other reply action answered
    rcases accepting with ⟨creation, same⟩ | ⟨held, same⟩
    · exact absurd same (refuses creation)
    · exact absurd same (closes held)

end Dispatcher

end PortMapper
