import PortMapper.Registry.History

/-!
# What the history keeps

After any number of retirements the history holds the last of them, as many as there is room for, in their
order (`entries_foldl_push`, `entries_ofList`).
-/

namespace PortMapper.History

theorem entries_push (history : History) (retirement : Retirement) :
    (history.push retirement).entries =
      (history.entries ++ [retirement]).drop (history.entries.length + 1 - capacity) := by
  simp only [push]

theorem entries_foldl_push (history : History) (retirements : List Retirement) :
    (retirements.foldl push history).entries =
      (history.entries ++ retirements).drop
        (history.entries.length + retirements.length - capacity) := by
  induction retirements generalizing history with
  | nil =>
    have room := history.length_le
    have none : history.entries.length + 0 - capacity = 0 := by omega
    simp only [List.foldl_nil, List.append_nil, List.length_nil, none, List.drop_zero]
  | cons retirement retirements ih =>
    have room := history.length_le
    have lost : history.entries.length + 1 - capacity ≤ (history.entries ++ [retirement]).length := by
      simp only [List.length_append, List.length_singleton]
      omega
    have total : history.entries.length + 1 - capacity +
        (((history.entries ++ [retirement]).drop (history.entries.length + 1 - capacity)).length +
          retirements.length - capacity) =
        history.entries.length + (retirement :: retirements).length - capacity := by
      simp only [List.length_drop, List.length_append, List.length_cons, List.length_nil]
      omega
    rw [List.foldl_cons, ih, entries_push, ← List.drop_append_of_le_length lost, List.drop_drop, total,
      List.append_assoc, List.singleton_append]

/-- Whatever the history keeps was in it or has ended since. -/
theorem mem_foldl_push {history : History} {retirements : List Retirement} {retirement : Retirement}
    (kept : retirement ∈ (retirements.foldl push history).entries) :
    retirement ∈ history.entries ∨ retirement ∈ retirements := by
  rw [entries_foldl_push] at kept
  exact List.mem_append.mp (List.mem_of_mem_drop kept)

theorem entries_ofList (retirements : List Retirement) :
    (ofList retirements).entries = retirements.drop (retirements.length - capacity) := by
  simpa [ofList, empty] using entries_foldl_push empty retirements

theorem length_ofList (retirements : List Retirement) :
    (ofList retirements).entries.length = min capacity retirements.length := by
  rw [entries_ofList, List.length_drop]
  omega

theorem ofList_append (retirements more : List Retirement) :
    ofList (retirements ++ more) = more.foldl push (ofList retirements) :=
  List.foldl_append

end PortMapper.History
