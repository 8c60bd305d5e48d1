import PortMapper.Proofs.Client.Registrations

/-!
# Calls that are given up

A name is stranded if it counts as registered and nobody owns it: no call under way and no handle is left that could
give it back. A call that its caller gives up strands its name, and nothing else does (`NameUse.stranded_of_step`). A
stranded name stays so, and a call for it is refused at once (`Registrations.given_up_names_are_lost`). So it is not
true that every name that counts as registered has an owner (`Registrations.given_up_call_strands_its_name`).
-/

namespace PortMapper

namespace NameUse

/-- The name counts as registered, and has no owner. -/
def Stranded (names : NameUse) (name : Text) : Prop :=
  name ∈ names.held ∧ name ∉ names.owned

variable {before after : NameUse} {name : Text}

/-- A name that its owner gives back is not stranded, and all others are as before. -/
theorem stranded_of_free {freed : Text} (perm : before.owned.Perm (freed :: after.owned))
    (held : after.held = without before.held freed) : after.Stranded name ↔ before.Stranded name := by
  have others : name ∈ after.held ↔ name ∈ before.held ∧ name ≠ freed := by
    rw [held, without, List.mem_filter, decide_eq_true_iff]
  rw [Stranded, Stranded, others, perm.mem_iff, List.mem_cons, not_or]
  constructor
  · rintro ⟨⟨kept, differs⟩, free⟩
    exact ⟨kept, differs, free⟩
  · rintro ⟨kept, differs, free⟩
    exact ⟨⟨kept, differs⟩, free⟩

/-- A name is stranded by the end of a call that its caller gave up, and by nothing else. -/
theorem stranded_of_step {event : NameEvent} (guarded : before.Guarded) (step : before.step event = some after) :
    after.Stranded name ↔ before.Stranded name ∨ event = .abandon name := by
  cases event with
  | start new =>
    simp only [reduceCtorEq, or_false]
    simp only [NameUse.step] at step
    split at step
    · cases step
      rfl
    · next free =>
      cases step
      by_cases same : name = new
      · subst same
        exact iff_of_false (fun stranded => stranded.2 List.mem_cons_self) fun stranded => free stranded.1
      · simp [Stranded, owned, same]
  | succeed called =>
    simp only [reduceCtorEq, or_false]
    obtain ⟨found, ⟨⟩⟩ := Option.ite_none_right_eq_some.mp step
    have perm := (owned_perm_of_call found).trans List.perm_middle.symm
    exact and_congr_right fun _ => not_congr perm.mem_iff.symm
  | fail called =>
    simp only [reduceCtorEq, or_false]
    obtain ⟨found, ⟨⟩⟩ := Option.ite_none_right_eq_some.mp step
    exact stranded_of_free (owned_perm_of_call found) rfl
  | abandon called =>
    obtain ⟨found, ⟨⟩⟩ := Option.ite_none_right_eq_some.mp step
    have perm := owned_perm_of_call found
    by_cases same : name = called
    · subst same
      -- Nobody else owns the name, so that nobody does now.
      have single := (List.nodup_cons.mp (perm.nodup_iff.mp guarded.1)).1
      have held : name ∈ before.held := guarded.2 (perm.mem_iff.mpr List.mem_cons_self)
      exact iff_of_true ⟨held, single⟩ (.inr rfl)
    · have others : name ∈ before.owned ↔ _ := perm.mem_iff
      rw [List.mem_cons, or_iff_right same] at others
      rw [or_iff_left fun event => same (NameEvent.abandon.inj event).symm]
      exact and_congr_right fun _ => not_congr others.symm
  | drop dropped =>
    simp only [reduceCtorEq, or_false]
    obtain ⟨found, ⟨⟩⟩ := Option.ite_none_right_eq_some.mp step
    exact stranded_of_free (owned_perm_of_handle found) rfl

end NameUse

namespace Registrations

variable {state before after : Registrations} {name : Text}

/-- The names whose calls are given up in the course of some events. -/
def givenUp (state : Registrations) : List RegistrationEvent → List Text
  | [] => []
  | event :: events =>
    (state.givenUp? event).toList ++
      match state.step event with
      | some next => next.givenUp events
      | none => []

theorem stranded_of_step {event : RegistrationEvent} (guarded : before.names.Guarded)
    (step : before.step event = some after) :
    after.names.Stranded name ↔ before.names.Stranded name ∨ before.givenUp? event = some name := by
  rcases names_of_step guarded step with ⟨same, nobody⟩ | ⟨happened, stepped, given⟩
  · rw [same, nobody, or_iff_left nofun]
  · rw [NameUse.stranded_of_step guarded stepped, given]

theorem guarded_of_step {event : RegistrationEvent} (guarded : before.names.Guarded)
    (step : before.step event = some after) : after.names.Guarded := by
  rcases names_of_step guarded step with ⟨same, _⟩ | ⟨happened, stepped, _⟩
  · rwa [same]
  · exact NameUse.guarded_of_step guarded stepped

/-- In the course of a run exactly the names of the calls that were given up are stranded. -/
theorem stranded_of_run {events : List RegistrationEvent} (guarded : before.names.Guarded)
    (run : before.run events = some after) :
    after.names.Stranded name ↔ before.names.Stranded name ∨ name ∈ before.givenUp events := by
  induction events generalizing before with
  | nil =>
    cases run
    simp [givenUp]
  | cons event events ih =>
    obtain ⟨next, step, rest⟩ := run_cons.mp run
    rw [ih (guarded_of_step guarded step) rest, stranded_of_step guarded step, givenUp, List.mem_append,
      Option.mem_toList, step, or_assoc]

/-- A client that holds no names. -/
def fresh (settings : ClientSettings) : Registrations :=
  ⟨⟨settings, []⟩, [], []⟩

theorem guarded_fresh (settings : ClientSettings) : (fresh settings).names.Guarded :=
  ⟨List.nodup_nil, List.nil_subset _⟩

/-- The stranded names of a client are those of the calls that were given up. -/
theorem stranded_iff {settings : ClientSettings} {events : List RegistrationEvent}
    (run : (fresh settings).run events = some state) :
    state.names.Stranded name ↔ name ∈ (fresh settings).givenUp events := by
  rw [stranded_of_run (guarded_fresh settings) run, or_iff_right]
  exact fun held => List.not_mem_nil held.1

/-! ## Names that are lost -/

/-- At every point of a run from a client that holds no names, a name counts as registered exactly if a call under way
or a live handle has it, or a call for it was given up. In the last case neither of the former has it, and whatever
happens then it counts as registered and a call for it is refused with nothing sent and nothing changed. -/
theorem given_up_names_are_lost {settings : ClientSettings} {events : List RegistrationEvent}
    (run : (fresh settings).run events = some state) :
    (∀ name, state.client.isRegistered name = true ↔
      name ∈ state.calls.map (·.name) ∨ name ∈ state.handles.map (·.name) ∨
        name ∈ (fresh settings).givenUp events) ∧
    (∀ name ∈ (fresh settings).givenUp events,
      name ∉ state.calls.map (·.name) ∧ name ∉ state.handles.map (·.name) ∧
      ∀ more later, state.run more = some later →
        later.client.isRegistered name = true ∧
        ∀ node : NodeDescription, node.name = name →
          later.register node = (some ⟨none, .error (.nameConflict name)⟩, later)) := by
  have guarded := NameUse.guarded_of_reachable (names_of_reachable ⟨settings, events, run⟩)
  constructor
  · intro name
    rw [Client.isRegistered_iff, ← stranded_iff run, ← or_assoc, ← List.mem_append]
    constructor
    · intro held
      exact (Decidable.em (name ∈ state.names.owned)).imp id fun free => ⟨held, free⟩
    · rintro (owned | ⟨held, _⟩)
      · exact guarded.2 owned
      · exact held
  · intro name lost
    have stranded := (stranded_iff run).mpr lost
    obtain ⟨called, handled⟩ := not_or.mp (mt List.mem_append.mpr stranded.2)
    refine ⟨called, handled, fun more later continued => ?_⟩
    have held := Client.isRegistered_iff.mpr ((stranded_of_run guarded continued).mpr (.inl stranded)).1
    refine ⟨held, ?_⟩
    rintro node rfl
    exact register_of_held held

/-- A call for a name is given up while it waits, another call for another name fails, and the first name is asked for
again. -/
def walkedAway : List RegistrationEvent :=
  [.register { port := 1, name := ['a'] }, .register { port := 2, name := ['b'] }, .abandon 1,
    .finish 0 fun _ => .broken "connection reset", .register { port := 1, name := ['a'] }]

/-- The name of the call that was given up is lost, and that of the call that failed is free. -/
theorem given_up_names_are_lost_of_walkedAway :
    ∃ state : Registrations, (fresh {}).run walkedAway = some state ∧
      state.calls = [] ∧ state.handles = [] ∧
      state.client.isRegistered ['a'] = true ∧ ¬ state.client.isRegistered ['b'] = true ∧
      ∀ more later, state.run more = some later →
        later.register { port := 1, name := ['a'] } = (some ⟨none, .error (.nameConflict ['a'])⟩, later) := by
  let state := ((fresh {}).run walkedAway).get (by decide)
  have run : (fresh {}).run walkedAway = some state := (Option.some_get _).symm
  obtain ⟨registered, lost⟩ := given_up_names_are_lost run
  obtain ⟨_, _, refused⟩ := lost ['a'] (by decide)
  refine ⟨state, run, by decide, by decide, (registered ['a']).mpr (by decide), mt (registered ['b']).mp (by decide),
    fun more later continued => ?_⟩
  exact (refused more later continued).2 _ rfl

/-- It is not so that every name that counts as registered is that of a live handle or of a call under way: a call that
was given up has neither. -/
theorem given_up_call_strands_its_name :
    ¬ ∀ state : Registrations, state.Reachable → ∀ name, state.client.isRegistered name = true →
      name ∈ state.handles.map (·.name) ∨ name ∈ state.calls.map (·.name) := by
  intro owned
  have reachable : Reachable ⟨⟨{}, [['a']]⟩, [], []⟩ := ⟨{}, [.register { port := 1, name := ['a'] }, .abandon 0], rfl⟩
  rcases owned _ reachable ['a'] rfl with handled | called
  · exact List.not_mem_nil handled
  · exact List.not_mem_nil called

end Registrations

end PortMapper
