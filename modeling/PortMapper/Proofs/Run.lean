/-!
# What a run keeps

A run takes one step for each event, and has no result if some step has none. What holds at its start and is
kept by every step holds at its end (`holds_of_run`), and if only the steps for some events keep it, a run of these
events does (`holds_of_run_of_forall`).
-/

namespace PortMapper

variable {State Event : Type} {step : State → Event → Option State}

theorem run_cons {before after : State} {event : Event} {events : List Event} :
    (event :: events).foldlM step before = some after ↔
      ∃ middle, step before event = some middle ∧ events.foldlM step middle = some after := by
  rw [List.foldlM_cons]
  exact Option.bind_eq_some_iff

/-- What steps keep that are taken for events of a certain kind, a run of such events keeps. -/
theorem holds_of_run_of_forall (allowed : Event → Prop) {motive : State → Prop}
    (kept : ∀ {before event after}, allowed event → motive before → step before event = some after → motive after)
    {before after : State} {events : List Event} (each : ∀ event ∈ events, allowed event)
    (run : events.foldlM step before = some after) (holds : motive before) : motive after := by
  induction events generalizing before with
  | nil =>
    cases run
    exact holds
  | cons event events ih =>
    obtain ⟨next, stepped, run⟩ := run_cons.mp run
    obtain ⟨first, each⟩ := List.forall_mem_cons.mp each
    exact ih each run (kept first holds stepped)

theorem holds_of_run {motive : State → Prop}
    (kept : ∀ {before event after}, motive before → step before event = some after → motive after)
    {before after : State} {events : List Event} (run : events.foldlM step before = some after)
    (holds : motive before) : motive after :=
  holds_of_run_of_forall (fun _ => True) (fun _ => kept) (fun _ _ => trivial) run holds

end PortMapper
