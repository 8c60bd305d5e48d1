import PortMapper.Proofs.Registry.Activity

/-!
# Holding a name

A node holds its name as long as its session is open: nothing that happens to a registry takes the name from it
without closing the session or finding it closed (`holds_of_close`, `holds_of_accept`, `holds_of_retires`).
-/

namespace PortMapper.Registry

variable {registry after : Registry} {node : Node}

/-- The node is the one under its name, unless its session is closed. -/
def Holds (registry : Registry) (node : Node) : Prop :=
  registry.isOpen node.session = true → registry.find? node.name = some node

theorem isOpen_iff {session : Session} :
    registry.isOpen session = true ↔ session.id ∉ registry.closed := by
  simp [isOpen]

/-- A session that is open after nodes were retired was open before, and none of the nodes was its own. -/
theorem isOpen_of_retires {nodes : List Node} (retires : registry.Retires nodes after)
    (isOpen : after.isOpen node.session = true) :
    registry.isOpen node.session = true ∧ node ∉ nodes := by
  rw [isOpen_iff, retires.mem_closed, not_or] at isOpen
  exact ⟨isOpen_iff.mpr isOpen.1, fun retired => isOpen.2 ⟨node, retired, rfl⟩⟩

theorem isOpen_of_close {session other : Session}
    (isOpen : (registry.close session).isOpen other = true) : registry.isOpen other = true := by
  rw [isOpen_iff, close, ClosedSessions.mem_close, not_or] at isOpen
  exact isOpen_iff.mpr isOpen.2

/-! ## What can happen to the holder of a name -/

theorem holds_of_close (session : Session) (holds : registry.Holds node) :
    (registry.close session).Holds node :=
  fun isOpen => holds (isOpen_of_close isOpen)

theorem holds_of_retires {nodes : List Node} (retires : registry.Retires nodes after)
    (holds : registry.Holds node) : after.Holds node := by
  intro isOpen
  obtain ⟨wasOpen, kept⟩ := isOpen_of_retires retires isOpen
  exact retires.find?_eq_some_iff.mpr ⟨holds wasOpen, kept⟩

theorem holds_of_accept {description : NodeDescription} {session : Session}
    (stale : ∀ holder, registry.find? description.name = some holder →
      registry.isOpen holder.session = false)
    (holds : registry.Holds node) :
    (registry.accept (registry.find? description.name) description session).2.Holds node := by
  intro isOpen
  have found := holds isOpen
  -- The name that was given away was not the one of a node whose session is open.
  have other : node.name ≠ description.name := by
    intro same
    rw [same] at found
    exact absurd (stale node found) (by simpa using isOpen)
  exact (find?_accept_of_ne other).trans found

end PortMapper.Registry
