import PortMapper.Creation

/-!
# The numbers of a counter

The first number is the seed, or 1 for a seed of zero. Each number is followed by the next higher one, and 65535 by 1
(`toNat_draw_draw`). So the number at every place is known (`toNat_numbers_startingAt`), and two numbers are the same
exactly if some whole rounds of 65535 lie between them (`numberAt_eq_iff`).
-/

namespace PortMapper.CreationCounter

/-- The number at a place, the first one at place zero, of a counter that was started at a seed. -/
def numberAt (seed : UInt16) (place : Nat) : Nat :=
  (max seed.toNat 1 - 1 + place) % 65535 + 1

/-- The number after a number. -/
theorem toNat_draw_draw (counter : CreationCounter) :
    counter.draw.2.draw.1.toNat = counter.draw.1.toNat % 65535 + 1 := by
  let number := counter.draw.1
  have positive : number.toNat ≠ 0 := fun zero => counter.draw_ne_zero (UInt16.toNat.inj zero)
  have bound := number.toNat_lt
  have next : (number + 1).toNat = (number.toNat + 1) % 65536 := UInt16.toNat_add number 1
  change (if number + 1 = 0 then (1 : UInt16) else number + 1).toNat = number.toNat % 65535 + 1
  -- The counter wraps to zero only after 65535, and zero is passed over.
  split
  · next wrapped =>
    rw [wrapped, UInt16.toNat_zero] at next
    rw [UInt16.toNat_one]
    omega
  · next going =>
    have further : (number + 1).toNat ≠ 0 := fun zero => going (UInt16.toNat.inj zero)
    omega

theorem toNat_draw_startingAt (seed : UInt16) : (startingAt seed).draw.1.toNat = max seed.toNat 1 := by
  by_cases zero : seed = 0
  · rw [zero]
    rfl
  · have positive : seed.toNat ≠ 0 := fun same => zero (UInt16.toNat.inj same)
    simp only [startingAt, draw, if_neg zero]
    omega

/-- From its next number on, a counter goes round through 1 to 65535. -/
theorem toNat_numbers (count : Nat) (counter : CreationCounter) :
    (numbers count counter).map UInt16.toNat =
      (List.range count).map fun place => (counter.draw.1.toNat - 1 + place) % 65535 + 1 := by
  induction count generalizing counter with
  | zero => rfl
  | succ count ih =>
    have positive : counter.draw.1.toNat ≠ 0 := fun zero => counter.draw_ne_zero (UInt16.toNat.inj zero)
    have bound := counter.draw.1.toNat_lt
    rw [numbers, List.map_cons, ih, toNat_draw_draw, List.range_succ_eq_map, List.map_cons, List.map_map]
    congr 1
    · omega
    · refine List.map_congr_left fun place _ => ?_
      rw [Function.comp_apply]
      omega

theorem toNat_numbers_startingAt (seed : UInt16) (count : Nat) :
    (numbers count (startingAt seed)).map UInt16.toNat = (List.range count).map (numberAt seed) := by
  rw [toNat_numbers, toNat_draw_startingAt]
  rfl

theorem numberAt_eq_iff {seed : UInt16} {place other : Nat} (before : place ≤ other) :
    numberAt seed place = numberAt seed other ↔ 65535 ∣ other - place := by
  unfold numberAt
  omega

theorem toNat_getElem?_numbers {seed : UInt16} {count place : Nat} {number : UInt16}
    (found : (numbers count (startingAt seed))[place]? = some number) : number.toNat = numberAt seed place := by
  have given := congrArg (·[place]?) (toNat_numbers_startingAt seed count)
  simp only [List.getElem?_map, found, Option.map_some] at given
  obtain ⟨_, inRange, same⟩ := Option.map_eq_some_iff.mp given.symm
  obtain ⟨_, rfl⟩ := List.getElem?_eq_some_iff.mp inRange
  rw [← same, List.getElem_range]

end PortMapper.CreationCounter
