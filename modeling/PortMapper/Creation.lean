import PortMapper.Bytes

/-!
# Creation numbers

Each registration gets a creation number, so that a node which comes back under its name can be told
from the one that left. The numbers count up from a seed through 1, 2, …, 65535 and start again at 1;
zero is never given out, and a seed of zero counts as one.
-/

namespace PortMapper

/-- The creation number that comes next. -/
structure CreationCounter where
  next : UInt16
  deriving DecidableEq, Repr

namespace CreationCounter

/-- The counter whose first number is the seed. -/
def startingAt (seed : UInt16) : CreationCounter :=
  ⟨if seed = 0 then 1 else seed⟩

/-- The next number, and the counter after it. -/
def draw (counter : CreationCounter) : UInt16 × CreationCounter :=
  let number := if counter.next = 0 then 1 else counter.next
  (number, ⟨number + 1⟩)

/-- The first `count` numbers. -/
def numbers : Nat → CreationCounter → List UInt16
  | 0, _ => []
  | count + 1, counter => counter.draw.1 :: numbers count counter.draw.2

theorem draw_ne_zero (counter : CreationCounter) : counter.draw.1 ≠ 0 := by
  unfold draw
  split <;> simp_all

end CreationCounter

end PortMapper
