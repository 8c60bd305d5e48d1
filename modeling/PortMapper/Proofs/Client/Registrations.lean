import Mathlib.Data.List.InsertIdx
import Mathlib.Data.List.Nodup
import PortMapper.Client.Registrations
import PortMapper.Proofs.Client.Names
import PortMapper.Proofs.Reader

/-!
# Names guard handles

The registrations of a client use names as `NameUse` says (`names_of_step`), so no two calls or handles have the same
name, and all their names count as registered. A name that is held is refused at once, a call that fails gives back
its name and no other, and so does the end of a handle (`names_guard_handles`).
-/

namespace PortMapper

namespace Client

/-- One name does not count as registered any longer, and the others do as before. -/
def Frees (before after : Client) (name : Text) : Prop :=
  after.isRegistered name = false ∧ ∀ other, other ≠ name → after.isRegistered other = before.isRegistered other

theorem isRegistered_iff {client : Client} {name : Text} : client.isRegistered name = true ↔ name ∈ client.held :=
  List.contains_iff_mem

theorem frees_release (client : Client) (name : Text) : client.Frees (client.release name) name := by
  constructor
  · rw [Bool.eq_false_iff, ne_eq, isRegistered_iff, release, List.mem_filter]
    simp
  · intro other differs
    rw [Bool.eq_iff_iff, isRegistered_iff, isRegistered_iff, release, List.mem_filter]
    simp [differs]

/-! ## Why a call fails -/

theorem received_ne_conflict (client : Client) (part : String) (limit : Option Nat) (exchange : Exchange)
    (name : Text) : client.received part limit exchange ≠ .error (.nameConflict name) := by
  intro failed
  cases exchange with
  | unreachable cause | connectTimeout | broken cause => cases failed
  | replied incoming =>
    simp only [received, readReply] at failed
    split at failed <;> cases failed

theorem call_ne_conflict {α : Type} (client : Client) (part : String) (limit : Option Nat) (request : Request)
    (decode : Bytes → Except WireError α) (network : Network) (name : Text) :
    (client.call part limit request decode network).result ≠ .error (.nameConflict name) := by
  unfold call
  split
  · nofun
  · next frame wrote =>
    intro failed
    rcases bind_eq_error.mp failed with unanswered | ⟨reply, _, unread⟩
    · exact client.received_ne_conflict part limit (network frame) name unanswered
    · split at unread <;> cases unread

/-- A call that reserved its name is never refused for a conflict of names. -/
theorem requestRegistration_ne_conflict (client : Client) (node : NodeDescription) (network : Network) (name : Text) :
    (client.requestRegistration node network).result ≠ .error (.nameConflict name) := by
  intro failed
  rcases bind_eq_error.mp failed with unanswered | ⟨reply, _, refused⟩
  · exact client.call_ne_conflict _ _ _ _ _ name unanswered
  · split at refused <;> cases refused

end Client

namespace Registrations

variable {state before after : Registrations} {place : Nat} {node : NodeDescription} {handle : RegistrationHandle}
  {network : Network}

/-! ## Steps and the names that they use -/

theorem map_eraseIdx {α : Type} {name : α → Text} {items : List α} {item : α} (distinct : (items.map name).Nodup)
    (found : items[place]? = some item) : (items.eraseIdx place).map name = (items.map name).erase (name item) := by
  obtain ⟨inRange, rfl⟩ := List.getElem?_eq_some_iff.mp found
  have there : place < (items.map name).length := by rwa [List.length_map]
  rw [← List.eraseIdx_map, ← distinct.erase_getElem place there, List.getElem_map]

theorem finish_ok {creation : UInt16}
    (accepted : (state.client.requestRegistration node network).result = .ok creation) :
    state.finish place node network =
      (state.client.requestRegistration node network,
        { state with
          calls := state.calls.eraseIdx place
          handles := ⟨node.name, creation, true⟩ :: state.handles }) := by
  simp only [finish, accepted]

theorem finish_error {error : ClientError}
    (failed : (state.client.requestRegistration node network).result = .error error) :
    state.finish place node network =
      (state.client.requestRegistration node network,
        { state with client := state.client.release node.name, calls := state.calls.eraseIdx place }) := by
  simp only [finish, failed]

section Guarded

variable (guarded : state.names.Guarded)

include guarded

theorem names_of_drop (found : state.handles[place]? = some handle) :
    state.names.step (.drop handle.name) = some (state.drop place handle).names := by
  have distinct : (state.handles.map (·.name)).Nodup := (List.nodup_append.mp guarded.1).2.1
  have handled : handle.name ∈ state.names.handles := List.mem_map_of_mem (List.mem_of_getElem? found)
  refine (if_pos handled).trans (congrArg some ?_)
  simp only [names, drop, map_eraseIdx distinct found]
  rfl

theorem names_of_finish (found : state.calls[place]? = some node) :
    ∃ happened, state.names.step happened = some (state.finish place node network).2.names ∧
      ∀ name, happened ≠ .abandon name := by
  have distinct : (state.calls.map (·.name)).Nodup := (List.nodup_append.mp guarded.1).1
  have called : node.name ∈ state.names.calls := List.mem_map_of_mem (List.mem_of_getElem? found)
  cases ended : (state.client.requestRegistration node network).result with
  | ok creation =>
    refine ⟨.succeed node.name, ?_, nofun⟩
    refine (if_pos called).trans (congrArg some ?_)
    simp only [finish_ok ended, names, map_eraseIdx distinct found]
    rfl
  | error error =>
    refine ⟨.fail node.name, ?_, nofun⟩
    refine (if_pos called).trans (congrArg some ?_)
    simp only [finish_error ended, names, map_eraseIdx distinct found]
    rfl

theorem names_of_abandon (found : state.calls[place]? = some node) :
    state.names.step (.abandon node.name) = some (state.abandon place).names := by
  have distinct : (state.calls.map (·.name)).Nodup := (List.nodup_append.mp guarded.1).1
  have called : node.name ∈ state.names.calls := List.mem_map_of_mem (List.mem_of_getElem? found)
  refine (if_pos called).trans (congrArg some ?_)
  simp only [names, abandon, map_eraseIdx distinct found]

end Guarded

theorem register_of_held (held : state.client.isRegistered node.name = true) :
    state.register node = (some ⟨none, .error (.nameConflict node.name)⟩, state) := by
  rw [register, if_pos held]

theorem names_of_register (state : Registrations) (node : NodeDescription) :
    state.names.step (.start node.name) = some (state.register node).2.names := by
  cases held : state.client.isRegistered node.name with
  | true =>
    rw [register_of_held held]
    exact if_pos (Client.isRegistered_iff.mp held)
  | false =>
    have free : node.name ∉ state.client.held := by
      rw [← Client.isRegistered_iff, held]
      exact Bool.false_ne_true
    simp only [register, held, Bool.false_eq_true, if_false]
    exact if_neg free

theorem names_of_hangUp (found : state.handles[place]? = some handle) :
    (state.hangUp place handle).names = state.names := by
  obtain ⟨inRange, rfl⟩ := List.getElem?_eq_some_iff.mp found
  have there : place < (state.handles.map (·.name)).length := by rwa [List.length_map]
  have own : state.handles[place].name = (state.handles.map (·.name))[place] := (List.getElem_map _).symm
  simp only [names, hangUp, List.map_set, own, List.set_getElem_self there]

/-- The name whose call an event gives up, if it gives one up. -/
def givenUp? (state : Registrations) : RegistrationEvent → Option Text
  | .abandon place => state.calls[place]?.map (·.name)
  | _ => none

/-- The registrations of a client use their names as `NameUse` says. -/
theorem names_of_step {event : RegistrationEvent} (guarded : before.names.Guarded)
    (step : before.step event = some after) :
    after.names = before.names ∧ before.givenUp? event = none ∨
      ∃ happened, before.names.step happened = some after.names ∧
        ∀ name, happened = .abandon name ↔ before.givenUp? event = some name := by
  cases event with
  | register node =>
    cases step
    exact .inr ⟨_, names_of_register before node, fun name => iff_of_false nofun nofun⟩
  | finish place network =>
    obtain ⟨node, found, ⟨⟩⟩ := Option.bind_eq_some_iff.mp step
    obtain ⟨happened, stepped, other⟩ := names_of_finish guarded found
    exact .inr ⟨happened, stepped, fun name => iff_of_false (other name) nofun⟩
  | abandon place =>
    obtain ⟨node, found, ⟨⟩⟩ := Option.bind_eq_some_iff.mp step
    refine .inr ⟨_, names_of_abandon guarded found, fun name => ?_⟩
    rw [givenUp?, found, NameEvent.abandon.injEq, Option.map_some, Option.some.injEq]
  | hangUp place =>
    obtain ⟨handle, found, ⟨⟩⟩ := Option.bind_eq_some_iff.mp step
    exact .inl ⟨names_of_hangUp found, rfl⟩
  | unregister place _ | drop place =>
    obtain ⟨handle, found, ⟨⟩⟩ := Option.bind_eq_some_iff.mp step
    exact .inr ⟨_, names_of_drop guarded found, fun name => iff_of_false nofun nofun⟩

theorem names_of_reachable (reachable : state.Reachable) : state.names.Reachable := by
  obtain ⟨settings, events, run⟩ := reachable
  refine holds_of_run (motive := fun state => state.names.Reachable) ?_ run ⟨[], rfl⟩
  intro before event after reachable step
  rcases names_of_step (NameUse.guarded_of_reachable reachable) step with ⟨same, _⟩ | ⟨happened, stepped, _⟩
  · rwa [same]
  · exact reachable.step stepped

/-! ## Whose names are held -/

/-- At every point of any run, the names of the calls under way and of the live handles are pairwise different, and all
of them count as registered. A call for a name that is held is refused with nothing sent and nothing changed. Any other
call reserves its name and, however the network treats it, ends either with a handle, the names being as they were, or
with an error that is no conflict of names and with its name free, all else being as it was. A handle that is dropped,
or whose node is unregistered, frees its own name and no other, whether or not the daemon had hung up and whether or
not the connection could be shut down. -/
theorem names_guard_handles (reachable : state.Reachable) :
    (state.calls.map (·.name) ++ state.handles.map (·.name)).Nodup ∧
    (∀ name ∈ state.calls.map (·.name) ++ state.handles.map (·.name), state.client.isRegistered name = true) ∧
    (∀ node, state.client.isRegistered node.name = true →
      state.register node = (some ⟨none, .error (.nameConflict node.name)⟩, state)) ∧
    (∀ node, state.client.isRegistered node.name = false →
      state.register node =
        (none, { state with client := state.client.reserve node.name, calls := node :: state.calls })) ∧
    (∀ place node network call after, state.calls[place]? = some node →
      state.finish place node network = (call, after) →
        call = state.client.requestRegistration node network ∧ after.calls = state.calls.eraseIdx place ∧
        ((∃ creation, call.result = .ok creation ∧ after.client = state.client ∧
            after.handles = ⟨node.name, creation, true⟩ :: state.handles) ∨
          (∃ error, call.result = .error error ∧ (∀ name, error ≠ .nameConflict name) ∧
            state.client.Frees after.client node.name ∧ after.handles = state.handles))) ∧
    (∀ place handle, state.handles[place]? = some handle →
      state.client.Frees (state.drop place handle).client handle.name ∧
      (state.drop place handle).calls = state.calls ∧
      (state.drop place handle).handles = state.handles.eraseIdx place ∧
      ∀ shutdown, (state.unregister place handle shutdown).2 = state.drop place handle) := by
  obtain ⟨distinct, held⟩ := NameUse.guarded_of_reachable (names_of_reachable reachable)
  refine ⟨distinct, fun name owned => Client.isRegistered_iff.mpr (held owned), fun _ => register_of_held, ?_, ?_, ?_⟩
  · intro node free
    rw [register, free, if_neg Bool.false_ne_true]
  · intro place node network call after found ended
    cases result : (state.client.requestRegistration node network).result with
    | ok creation =>
      cases (finish_ok result).symm.trans ended
      exact ⟨rfl, rfl, .inl ⟨creation, result, rfl, rfl⟩⟩
    | error error =>
      cases (finish_error result).symm.trans ended
      refine ⟨rfl, rfl, .inr ⟨error, result, ?_, state.client.frees_release node.name, rfl⟩⟩
      rintro name rfl
      exact state.client.requestRegistration_ne_conflict node network name result
  · intro place handle found
    exact ⟨state.client.frees_release handle.name, rfl, rfl, fun _ => rfl⟩

/-- Two calls are under way, the second one is accepted, the name of its handle is asked for again, and the daemon hangs
up on it. -/
def hungUp : List RegistrationEvent :=
  [.register { port := 1, name := ['b'] }, .register { port := 2, name := ['a'] },
    .finish 0 fun _ => .kept [121, 0, 0, 1], .register { port := 3, name := ['a'] }, .hangUp 0]

/-- A handle that the daemon has hung up on and whose node is unregistered frees its name, and the call under way keeps
its own. -/
theorem names_guard_handles_of_hangUp :
    ∃ state : Registrations, run ⟨⟨{}, []⟩, [], []⟩ hungUp = some state ∧
      state.client.isRegistered ['a'] = true ∧
      state.client.Frees (state.unregister 0 ⟨['a'], 1, false⟩ (.error "broken pipe")).2.client ['a'] ∧
      (state.unregister 0 ⟨['a'], 1, false⟩ (.error "broken pipe")).2.client.isRegistered ['b'] = true := by
  let state := (run ⟨⟨{}, []⟩, [], []⟩ hungUp).get (by decide)
  have run : run ⟨⟨{}, []⟩, [], []⟩ hungUp = some state := (Option.some_get _).symm
  obtain ⟨_, held, _, _, _, ended⟩ := names_guard_handles ⟨{}, hungUp, run⟩
  obtain ⟨frees, _, _, dropped⟩ := ended 0 ⟨['a'], 1, false⟩ rfl
  refine ⟨state, run, held ['a'] (by decide), ?_, ?_⟩
  · rw [dropped]
    exact frees
  · rw [dropped, frees.2 ['b'] (by decide)]
    exact held ['b'] (by decide)

end Registrations

end PortMapper
