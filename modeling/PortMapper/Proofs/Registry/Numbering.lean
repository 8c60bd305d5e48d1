import Mathlib.Data.List.Nodup
import PortMapper.Proofs.Creation
import PortMapper.Proofs.Registry.Activity

/-!
# Each registration draws one number

What the accepted registrations were given and what the counter will give are together the numbers from the seed on
(`Numbered`): an accepted registration takes the next number from the one to the other, and nothing else draws
(`draws_of_step`). So the creation numbers go round through 1 to 65535 in the order of acceptance
(`creation_numbers_go_round`).
-/

namespace PortMapper.Activity

open CreationCounter (numbers numberAt startingAt)

variable {seed : UInt16} {before after activity : Activity} {events : List RegistryEvent}

/-! ## Who draws a number -/

/-- An event that does not register a node, or one whose registration is refused, draws no number. -/
def DrawsNone (before after : Activity) : Prop :=
  after.accepted = before.accepted ∧ after.registry.counter = before.registry.counter

/-- The event registers a node, which is accepted with the next number. -/
def DrawsNext (before after : Activity) (event : RegistryEvent) : Prop :=
  ∃ node id session, event = .register node id ∧ before.sessions.session? id = some session ∧
    (before.registry.register node session).1 = .registered before.registry.counter.draw.1 ∧
    after.accepted = before.accepted ++ [⟨node, before.registry.counter.draw.1, session⟩] ∧
    after.registry.counter = before.registry.counter.draw.2

theorem drawsNone_of_retires {nodes : List Node} {registry : Registry} {pending : List (List Check)}
    (retires : before.registry.Retires nodes registry) :
    DrawsNone before { before.become registry with pending } :=
  ⟨rfl, retires.counter⟩

theorem draws_of_register (node : NodeDescription) {id : UInt64} {session : Session}
    (known : before.sessions.session? id = some session) :
    DrawsNone before (before.register node session) ∨
      DrawsNext before (before.register node session) (.register node id) := by
  rcases before.registry.register_cases node session with ⟨_, refused⟩ | ⟨_, accepted⟩
  · left
    simp only [register, refused]
    exact ⟨rfl, rfl⟩
  · right
    refine ⟨node, id, session, rfl, known, ?_, ?_, ?_⟩
    · rw [accepted]
      rfl
    · simp only [register, accepted, Registry.accept]
    · simp only [register, accepted, Registry.accept]

/-- Only a registration that is accepted draws a number, and it draws one. -/
theorem draws_of_step {event : RegistryEvent} (step : before.step event = some after) :
    DrawsNone before after ∨ DrawsNext before after event := by
  cases event with
  | register node id =>
    obtain ⟨session, known, ⟨⟩⟩ := Option.bind_eq_some_iff.mp step
    exact draws_of_register node known
  | openSession peer | closeSession id =>
    obtain ⟨_, _, ⟨⟩⟩ := Option.bind_eq_some_iff.mp step
    exact .inl ⟨rfl, rfl⟩
  | beginLookup name | beginList =>
    cases step
    exact .inl ⟨rfl, rfl⟩
  | remove name =>
    cases step
    exact .inl (drawsNone_of_retires (before.registry.remove_retires name))
  | removeSession name id =>
    cases step
    exact .inl (drawsNone_of_retires (before.registry.removeSession_retires name id))
  | clear =>
    cases step
    exact .inl (drawsNone_of_retires before.registry.clear_retires)
  | settle place responds =>
    obtain ⟨checks, _, ⟨⟩⟩ := Option.bind_eq_some_iff.mp step
    obtain ⟨_, retires, _⟩ := before.registry.settle_retires (checks.map (·.verdict responds))
    exact .inl (drawsNone_of_retires retires)

/-! ## What the registrations were given -/

/-- What was given out and what will be are the numbers from the seed on. -/
def Numbered (seed : UInt16) (activity : Activity) : Prop :=
  ∀ count, activity.accepted.map (·.creation) ++ numbers count activity.registry.counter =
    numbers (activity.accepted.length + count) (startingAt seed)

theorem numbered_of_step {event : RegistryEvent} (numbered : before.Numbered seed)
    (step : before.step event = some after) : after.Numbered seed := by
  intro count
  rcases draws_of_step step with ⟨accepted, counter⟩ | ⟨_, _, _, _, _, _, accepted, counter⟩
  · rw [accepted, counter]
    exact numbered count
  · rw [accepted, counter, List.map_append, List.append_assoc, List.length_append, List.length_singleton,
      Nat.add_assoc, Nat.add_comm 1 count]
    exact numbered (count + 1)

theorem numbered_of_run (run : (start seed).run events = some activity) : activity.Numbered seed := by
  refine holds_of_run (motive := Numbered seed) numbered_of_step run fun count => ?_
  rw [start, List.length_nil, Nat.zero_add]
  rfl

theorem creations_of_run (run : (start seed).run events = some activity) :
    activity.accepted.map (·.creation) = numbers activity.accepted.length (startingAt seed) := by
  have given := numbered_of_run run 0
  rwa [numbers, List.append_nil, Nat.add_zero] at given

theorem creation_of_getElem? (run : (start seed).run events = some activity) {place : Nat} {node : Node}
    (found : activity.accepted[place]? = some node) : node.creation.toNat = numberAt seed place := by
  have given := congrArg (·[place]?) (creations_of_run run)
  simp only [List.getElem?_map, found, Option.map_some] at given
  exact CreationCounter.toNat_getElem?_numbers given.symm

theorem creation_eq_iff (run : (start seed).run events = some activity) {place other : Nat} {earlier later : Node}
    (first : activity.accepted[place]? = some earlier) (second : activity.accepted[other]? = some later)
    (before : place ≤ other) : earlier.creation = later.creation ↔ 65535 ∣ other - place := by
  rw [← UInt16.toNat_inj, creation_of_getElem? run first, creation_of_getElem? run second]
  exact CreationCounter.numberAt_eq_iff before

/-- Any 65535 consecutive registrations have different numbers. -/
theorem nodup_window (run : (start seed).run events = some activity) (skipped : Nat) :
    (((activity.accepted.drop skipped).take 65535).map (·.creation)).Nodup := by
  refine List.nodup_iff_getElem?_ne_getElem?.mpr fun place other before inWindow same => ?_
  rw [List.length_map, List.length_take, List.length_drop] at inWindow
  have narrow : other < 65535 := by omega
  have registered : skipped + other < activity.accepted.length := by omega
  have first := List.getElem?_eq_getElem (l := activity.accepted)
    (Nat.lt_trans (Nat.add_lt_add_left before skipped) registered)
  have second := List.getElem?_eq_getElem registered
  simp only [List.getElem?_map, List.getElem?_take_of_lt narrow,
    List.getElem?_take_of_lt (Nat.lt_trans before narrow), List.getElem?_drop, first, second, Option.map_some,
    Option.some.injEq] at same
  have rounds := (creation_eq_iff run first second (by omega)).mp same
  omega

/-- The creation numbers of the accepted registrations go round through 1 to 65535 from the seed on, in the order of
acceptance. Every event leaves the registrations and the counter as they are, or it is a registration that is accepted
with the next number; so none is used up by one that is refused, by a lookup or by a removal. No number is zero, any
65535 consecutive ones are different, and two registrations, of one name or not, have the same number exactly if some
whole rounds of 65535 acceptances lie between them. -/
theorem creation_numbers_go_round (run : (start seed).run events = some activity) :
    activity.accepted.map (·.creation.toNat) =
      (List.range activity.accepted.length).map (fun place => (max seed.toNat 1 - 1 + place) % 65535 + 1) ∧
    (∀ event after, activity.step event = some after →
      DrawsNone activity after ∨ DrawsNext activity after event) ∧
    (∀ node ∈ activity.accepted, node.creation ≠ 0) ∧
    (∀ skipped, (((activity.accepted.drop skipped).take 65535).map (·.creation)).Nodup) ∧
    (∀ place other earlier later, place ≤ other → activity.accepted[place]? = some earlier →
      activity.accepted[other]? = some later → (earlier.creation = later.creation ↔ 65535 ∣ other - place)) := by
  refine ⟨?_, fun _ _ => draws_of_step, ?_, nodup_window run, ?_⟩
  · have given := CreationCounter.toNat_numbers_startingAt seed activity.accepted.length
    rw [← creations_of_run run, List.map_map] at given
    exact given
  · intro node accepted zero
    obtain ⟨place, found⟩ := List.mem_iff_getElem?.mp accepted
    have given := creation_of_getElem? run found
    rw [zero, UInt16.toNat_zero] at given
    exact absurd given (Nat.succ_ne_zero _).symm
  · intro place other earlier later before first second
    exact creation_eq_iff run first second before

/-- The seed is the last number of a round. The second registration is refused, a listing finds nobody dead, the name
is removed, and another session registers it. -/
def turning : List RegistryEvent :=
  [.openSession ⟨.loopback, 40000, 0⟩, .openSession ⟨.loopback, 40001, 0⟩,
    .register { port := 1, name := ['a'] } 1, .register { port := 2, name := ['a'] } 2, .beginList,
    .settle 0 fun _ => true, .remove ['a'], .register { port := 2, name := ['a'] } 2]

/-- The node that comes back after the last number has the first one. -/
theorem creation_numbers_go_round_of_turning :
    ∃ activity : Activity, (start 65535).run turning = some activity ∧
      activity.accepted.map (·.creation.toNat) = [65535, 1] ∧
      (activity.accepted.map (·.creation)).Nodup := by
  let activity := ((start 65535).run turning).get (by decide)
  have run : (start 65535).run turning = some activity := (Option.some_get _).symm
  have two : activity.accepted.length = 2 := by decide
  clear_value activity
  obtain ⟨given, _, _, apart, _⟩ := creation_numbers_go_round run
  have window := apart 0
  rw [two] at given
  rw [List.drop_zero, List.take_of_length_le (by omega)] at window
  exact ⟨activity, run, given, window⟩

end PortMapper.Activity
