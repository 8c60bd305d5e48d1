import PortMapper.Client.Names
import PortMapper.Proofs.Run

/-!
# A name has one owner

The calls under way and the live handles own names. No two own the same name, and every owned name counts as
registered (`Guards`): a name gets an owner only when it is reserved, goes from a call to its handle, and loses its
reservation no sooner than its owner (`guarded_of_reachable`).
-/

namespace PortMapper

/-- The owned names are pairwise different, and all of them are held. -/
def Guards (held owned : List Text) : Prop :=
  owned.Nodup ∧ owned ⊆ held

namespace Guards

variable {held owned others : List Text} {name : Text}

theorem reserve (guards : Guards held owned) (free : name ∉ held) : Guards (name :: held) (name :: owned) :=
  ⟨List.nodup_cons.mpr ⟨fun member => free (guards.2 member), guards.1⟩, List.cons_subset_cons name guards.2⟩

theorem perm (guards : Guards held owned) (same : owned.Perm others) : Guards held others :=
  ⟨same.nodup_iff.mp guards.1, List.Subset.trans same.symm.subset guards.2⟩

/-- A name that nobody owns any longer may be held on. -/
theorem disown (guards : Guards held (name :: owned)) : Guards held owned :=
  ⟨(List.nodup_cons.mp guards.1).2, (List.cons_subset.mp guards.2).2⟩

/-- A name that its only owner gives back is not another one's. -/
theorem free (guards : Guards held (name :: owned)) : Guards (NameUse.without held name) owned := by
  refine ⟨guards.disown.1, fun other member => ?_⟩
  refine List.mem_filter.mpr ⟨guards.disown.2 member, decide_eq_true ?_⟩
  rintro rfl
  exact (List.nodup_cons.mp guards.1).1 member

end Guards

namespace NameUse

/-- The names that have an owner. -/
def owned (names : NameUse) : List Text :=
  names.calls ++ names.handles

def Guarded (names : NameUse) : Prop :=
  Guards names.held names.owned

variable {names : NameUse}

theorem owned_perm_of_call {name : Text} (called : name ∈ names.calls) :
    names.owned.Perm (name :: (names.calls.erase name ++ names.handles)) :=
  (List.perm_cons_erase called).append_right _

theorem owned_perm_of_handle {name : Text} (handled : name ∈ names.handles) :
    names.owned.Perm (name :: (names.calls ++ names.handles.erase name)) :=
  ((List.perm_cons_erase handled).append_left _).trans List.perm_middle

theorem guarded_of_step {before after : NameUse} {event : NameEvent} (guarded : before.Guarded)
    (step : before.step event = some after) : after.Guarded := by
  cases event with
  | start name =>
    simp only [NameUse.step] at step
    split at step
    · cases step
      exact guarded
    · next free =>
      cases step
      exact guarded.reserve free
  | succeed name =>
    obtain ⟨called, ⟨⟩⟩ := Option.ite_none_right_eq_some.mp step
    exact guarded.perm ((owned_perm_of_call called).trans List.perm_middle.symm)
  | fail name =>
    obtain ⟨called, ⟨⟩⟩ := Option.ite_none_right_eq_some.mp step
    exact (guarded.perm (owned_perm_of_call called)).free
  | abandon name =>
    obtain ⟨called, ⟨⟩⟩ := Option.ite_none_right_eq_some.mp step
    exact (guarded.perm (owned_perm_of_call called)).disown
  | drop name =>
    obtain ⟨handled, ⟨⟩⟩ := Option.ite_none_right_eq_some.mp step
    exact (guarded.perm (owned_perm_of_handle handled)).free

theorem guarded_of_reachable (reachable : names.Reachable) : names.Guarded := by
  obtain ⟨events, run⟩ := reachable
  exact holds_of_run (motive := Guarded) guarded_of_step run ⟨.nil, List.nil_subset _⟩

theorem Reachable.step {after : NameUse} {event : NameEvent} (reachable : names.Reachable)
    (step : names.step event = some after) : after.Reachable := by
  obtain ⟨events, run⟩ := reachable
  refine ⟨events ++ [event], ?_⟩
  rw [NameUse.run, List.foldlM_append]
  exact Option.bind_eq_some_iff.mpr ⟨names, run, run_cons.mpr ⟨after, step, rfl⟩⟩

end NameUse

end PortMapper
