import PortMapper.Registry.Table

/-!
# The history

The last thousand registrations that ended, the oldest first.
-/

namespace PortMapper

/-- A registration that ended. -/
structure Retirement where
  name : Text
  port : UInt16
  /-- The number of the connection that it was made on. -/
  session : UInt64
  deriving DecidableEq, Repr

/-- What the history keeps of a node. -/
def Node.retirement (node : Node) : Retirement :=
  ⟨node.name, node.port, node.session.id⟩

namespace History

def capacity : Nat := 1000

end History

/-- The last registrations that ended, the oldest first. -/
structure History where
  entries : List Retirement
  length_le : entries.length ≤ History.capacity

namespace History

def empty : History :=
  ⟨[], Nat.zero_le _⟩

/-- The history after one more registration ended; the oldest gives way if there is no room. -/
def push (history : History) (retirement : Retirement) : History where
  entries := (history.entries ++ [retirement]).drop (history.entries.length + 1 - capacity)
  length_le := by
    simp only [List.length_drop, List.length_append, List.length_singleton]
    omega

/-- The history of some retirements, of which it keeps the last. -/
def ofList (retirements : List Retirement) : History :=
  retirements.foldl push empty

end History

end PortMapper
