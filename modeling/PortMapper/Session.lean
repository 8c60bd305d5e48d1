import PortMapper.Address.Basic

/-!
# Sessions

A session is one accepted connection. It has a number that no other session of the process has, and
it knows who is at the other end. It is open until it is closed, and never opens again.
-/

namespace PortMapper

/-- An accepted connection. -/
structure Session where
  /-- The number of the connection, shown in a dump. -/
  id : UInt64
  peer : SocketAddress
  deriving DecidableEq, Repr

/-- The sessions that were opened, the last one first. -/
abbrev OpenedSessions := List Session

namespace OpenedSessions

/-- The session of a number. -/
def session? (sessions : OpenedSessions) (id : UInt64) : Option Session :=
  sessions.find? (·.id = id)

/-- The number of the session that is opened next, if numbers are left. -/
def nextId? (sessions : OpenedSessions) : Option UInt64 :=
  if sessions.length + 1 < UInt64.size then some (UInt64.ofNat (sessions.length + 1)) else none

end OpenedSessions

/-- The sessions that are closed, by their numbers. -/
abbrev ClosedSessions := List UInt64

namespace ClosedSessions

/-- The sessions closed after one more is; closing twice is closing once. -/
def close (closed : ClosedSessions) (id : UInt64) : ClosedSessions :=
  if closed.contains id then closed else id :: closed

theorem mem_close {closed : ClosedSessions} {id other : UInt64} :
    other ∈ closed.close id ↔ other = id ∨ other ∈ closed := by
  unfold close
  split
  · next already =>
    simp only [List.contains_iff_mem] at already
    constructor
    · exact Or.inr
    · rintro (rfl | member)
      · exact already
      · exact member
  · simp

end ClosedSessions

end PortMapper
