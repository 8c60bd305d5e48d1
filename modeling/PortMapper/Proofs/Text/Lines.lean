import PortMapper.Text.Blank
import PortMapper.Text.Lines

/-!
# Putting lines together and taking them apart

What stands before a separator is found again, whatever it is, if what follows lacks the last character of the
separator (`cutLast?_append`). Lines that were put together are found again if none of them holds a line
feed, is empty or ends in a carriage return (`lines_joinLines`). In no case does a line that is read hold a
line feed (`not_mem_of_mem_lines`), or a character that the text lacks (`subset_of_mem_lines`).
-/

namespace PortMapper.Text

variable {start mark text rest before after line : Text}

/-! ## Separators -/

theorem dropStart?_eq_some : dropStart? start text = some rest ↔ text = start ++ rest := by
  constructor
  · intro dropped
    unfold dropStart? at dropped
    split at dropped
    · next begins =>
      obtain ⟨tail, rfl⟩ := List.isPrefixOf_iff_prefix.mp begins
      cases dropped
      rw [List.drop_left]
    · cases dropped
  · rintro rfl
    rw [dropStart?, if_pos (List.isPrefixOf_iff_prefix.mpr (List.prefix_append start rest)),
      List.drop_left]

theorem cutFirst?_sound {passed : Text} (cut : cutFirst? mark passed text = some (before, after)) :
    passed.reverse ++ text = before.reverse ++ mark ++ after := by
  induction text generalizing passed with
  | nil =>
    unfold cutFirst? at cut
    split at cut
    · next empty =>
      cases cut
      rw [List.isEmpty_iff.mp empty, List.append_nil, List.append_nil]
    · cases cut
  | cons c text ih =>
    unfold cutFirst? at cut
    split at cut
    · next here =>
      obtain ⟨tail, same⟩ := List.isPrefixOf_iff_prefix.mp here
      cases cut
      rw [← same, List.drop_left, List.append_assoc]
    · have found := ih cut
      rwa [List.reverse_cons, List.append_assoc] at found

/-- A text is what stands before and after the separator, with the separator between them. -/
theorem cutLast?_sound (cut : cutLast? mark text = some (before, after)) :
    text = before ++ mark ++ after := by
  obtain ⟨⟨after', before'⟩, found, ⟨⟩⟩ := Option.map_eq_some_iff.mp cut
  have reversed := congrArg List.reverse (cutFirst?_sound found)
  simpa using reversed

theorem cutFirst?_append {head : Char} {tail passed skipped : Text} (absent : head ∉ skipped) :
    cutFirst? (head :: tail) passed (skipped ++ head :: tail ++ rest) =
      some (skipped.reverse ++ passed, rest) := by
  induction skipped generalizing passed with
  | nil => simp [cutFirst?]
  | cons c skipped ih =>
    obtain ⟨other, absent⟩ := not_or.mp (mt List.mem_cons.mpr absent)
    -- The separator does not begin here, since its first character is another one.
    rw [List.cons_append, List.cons_append, cutFirst?, if_neg (by simp [other]), ih absent,
      List.reverse_cons, List.append_assoc, List.singleton_append]

theorem cutLast?_append {last : Char} (ends : mark.getLast? = some last) (absent : last ∉ after) :
    cutLast? mark (before ++ mark ++ after) = some (before, after) := by
  obtain ⟨front, rfl⟩ := List.getLast?_eq_some_iff.mp ends
  -- Read from the end, the separator begins with its last character.
  have found : cutFirst? (last :: front.reverse) []
      (after.reverse ++ last :: front.reverse ++ before.reverse) =
        some (after.reverse.reverse ++ [], before.reverse) :=
    cutFirst?_append (mt List.mem_reverse.mp absent)
  have reversed : (before ++ (front ++ [last]) ++ after).reverse =
      after.reverse ++ last :: front.reverse ++ before.reverse := by simp
  rw [cutLast?, reversed, List.reverse_concat, found]
  simp

/-! ## Lines -/

theorem parts_cons_self (mark : Char) (text : Text) : parts mark (mark :: text) = [] :: parts mark text := by
  simp [parts]

theorem parts_append {mark : Char} {part : Text} {parts' : List Text} (absent : mark ∉ line)
    (parted : parts mark text = part :: parts') : parts mark (line ++ text) = (line ++ part) :: parts' := by
  induction line with
  | nil => exact parted
  | cons c line ih =>
    obtain ⟨other, absent⟩ := not_or.mp (mt List.mem_cons.mpr absent)
    have rest := ih absent
    unfold parts at rest ⊢
    rw [List.cons_append, List.foldr_cons, rest, if_neg (Ne.symm other), List.cons_append]

theorem parts_of_not_mem {mark : Char} (absent : mark ∉ line) : parts mark line = [line] := by
  have parted : parts mark (line ++ []) = [line ++ []] := parts_append absent rfl
  rwa [List.append_nil] at parted

theorem parts_append_cons {mark : Char} (absent : mark ∉ line) (text : Text) :
    parts mark (line ++ mark :: text) = line :: parts mark text := by
  rw [parts_append absent (parts_cons_self mark text), List.append_nil]

theorem parts_cons_of_ne {mark c : Char} (other : c ≠ mark) {part : Text} {parts' : List Text}
    (parted : parts mark text = part :: parts') : parts mark (c :: text) = (c :: part) :: parts' := by
  have absent : mark ∉ [c] := by simpa using other.symm
  exact parts_append absent parted

theorem parts_ne_nil (mark : Char) (text : Text) : parts mark text ≠ [] := by
  induction text with
  | nil => exact List.cons_ne_nil _ _
  | cons c text ih =>
    obtain ⟨part, parts', parted⟩ := List.exists_cons_of_ne_nil ih
    by_cases same : c = mark
    · rw [same, parts_cons_self]
      exact List.cons_ne_nil _ _
    · rw [parts_cons_of_ne same parted]
      exact List.cons_ne_nil _ _

/-- With one more character in front, a part is new and empty, is one from before, or has the character in front. -/
theorem cases_of_mem_parts_cons {mark c : Char} {part : Text} (member : part ∈ parts mark (c :: text)) :
    part = [] ∨ part ∈ parts mark text ∨ c ≠ mark ∧ ∃ head ∈ parts mark text, part = c :: head := by
  by_cases same : c = mark
  · rw [same, parts_cons_self] at member
    exact (List.mem_cons.mp member).imp_right .inl
  · obtain ⟨head, tail, parted⟩ := List.exists_cons_of_ne_nil (parts_ne_nil mark text)
    rw [parts_cons_of_ne same parted] at member
    rw [parted]
    rcases List.mem_cons.mp member with first | later
    · exact .inr (.inr ⟨same, head, List.mem_cons_self, first⟩)
    · exact .inr (.inl (List.mem_cons_of_mem _ later))

theorem not_mem_of_mem_parts {mark : Char} {part : Text} (member : part ∈ parts mark text) : mark ∉ part := by
  induction text generalizing part with
  | nil =>
    cases List.mem_singleton.mp member
    exact List.not_mem_nil
  | cons c text ih =>
    rcases cases_of_mem_parts_cons member with rfl | found | ⟨other, head, found, rfl⟩
    · exact List.not_mem_nil
    · exact ih found
    · rw [List.mem_cons, not_or]
      exact ⟨Ne.symm other, ih found⟩

theorem subset_of_mem_parts {mark : Char} {part : Text} (member : part ∈ parts mark text) : part ⊆ text := by
  induction text generalizing part with
  | nil =>
    cases List.mem_singleton.mp member
    exact List.nil_subset _
  | cons c text ih =>
    rcases cases_of_mem_parts_cons member with rfl | found | ⟨_, head, found, rfl⟩
    · exact List.nil_subset _
    · exact List.subset_cons_of_subset c (ih found)
    · exact List.cons_subset_cons c (ih found)

theorem parts_joinLines {lines : List Text} (nonempty : lines ≠ []) (clean : ∀ line ∈ lines, '\n' ∉ line) :
    parts '\n' (joinLines lines) = lines := by
  induction lines with
  | nil => exact absurd rfl nonempty
  | cons line lines ih =>
    obtain ⟨absent, clean⟩ := List.forall_mem_cons.mp clean
    cases lines with
    | nil => rw [joinLines, List.intercalate_singleton, parts_of_not_mem absent]
    | cons next lines =>
      have rest := ih (List.cons_ne_nil _ _) clean
      rw [joinLines, List.intercalate_cons_cons, List.append_assoc, List.singleton_append,
        parts_append_cons absent]
      exact congrArg (line :: ·) rest

theorem closeLines_eq_self {lines : List Text}
    (closed : ∀ line ∈ lines, line ≠ [] ∧ line.getLast? ≠ some '\r') : closeLines lines = lines := by
  fun_induction closeLines lines with
  | case1 => rfl
  | case2 last empty =>
    exact absurd (List.isEmpty_iff.mp empty) (closed last List.mem_cons_self).1
  | case3 last => rfl
  | case4 line rest _ ih =>
    obtain ⟨⟨_, ends⟩, closed⟩ := List.forall_mem_cons.mp closed
    rw [ih closed, dropReturn, if_neg ends]

/-- If a line feed stands behind each line, the last included, only carriage returns are dropped. -/
theorem closeLines_append_nil (lines : List Text) : closeLines (lines ++ [[]]) = lines.map dropReturn := by
  induction lines with
  | nil => rfl
  | cons line lines ih =>
    have further : lines ++ [[]] ≠ [] := List.append_ne_nil_of_right_ne_nil lines (List.cons_ne_nil [] [])
    obtain ⟨next, rest, split⟩ := List.exists_cons_of_ne_nil further
    rw [split] at ih
    rw [List.cons_append, split, closeLines, ih, List.map_cons]
    exact List.cons_ne_nil next rest

theorem lines_joinLines {lines : List Text} (clean : ∀ line ∈ lines, '\n' ∉ line)
    (closed : ∀ line ∈ lines, line ≠ [] ∧ line.getLast? ≠ some '\r') :
    Text.lines (joinLines lines) = lines := by
  cases lines with
  | nil => rfl
  | cons line lines =>
    rw [Text.lines, parts_joinLines (List.cons_ne_nil _ _) clean, closeLines_eq_self closed]

theorem subset_of_mem_closeLines {parts : List Text} (member : line ∈ closeLines parts) :
    ∃ part ∈ parts, line ⊆ part := by
  fun_induction closeLines parts with
  | case1 => cases member
  | case2 => cases member
  | case3 last => exact ⟨last, List.mem_cons_self, List.mem_singleton.mp member ▸ List.Subset.refl _⟩
  | case4 first rest _ ih =>
    rcases List.mem_cons.mp member with rfl | member
    · refine ⟨first, List.mem_cons_self, ?_⟩
      unfold dropReturn
      split
      · exact List.dropLast_subset first
      · exact List.Subset.refl first
    · obtain ⟨part, found, subset⟩ := ih member
      exact ⟨part, List.mem_cons_of_mem _ found, subset⟩

theorem not_mem_of_mem_lines (member : line ∈ lines text) : '\n' ∉ line := by
  obtain ⟨part, found, subset⟩ := subset_of_mem_closeLines member
  exact fun feed => not_mem_of_mem_parts found (subset feed)

theorem subset_of_mem_lines (member : line ∈ lines text) : line ⊆ text := by
  obtain ⟨part, found, subset⟩ := subset_of_mem_closeLines member
  exact List.Subset.trans subset (subset_of_mem_parts found)

theorem mem_joinLines {lines : List Text} {c : Char} (member : c ∈ joinLines lines) :
    c = '\n' ∨ ∃ line ∈ lines, c ∈ line := by
  induction lines with
  | nil => cases member
  | cons line lines ih =>
    cases lines with
    | nil =>
      rw [joinLines, List.intercalate_singleton] at member
      exact .inr ⟨line, List.mem_cons_self, member⟩
    | cons next lines =>
      rw [joinLines, List.intercalate_cons_cons, List.append_assoc, List.mem_append] at member
      rcases member with here | member
      · exact .inr ⟨line, List.mem_cons_self, here⟩
      · rcases List.mem_cons.mp member with rfl | later
        · exact .inl rfl
        · exact (ih later).imp id fun ⟨line, found, inside⟩ =>
            ⟨line, List.mem_cons_of_mem _ found, inside⟩

theorem subset_joinLines {lines : List Text} (member : line ∈ lines) : line ⊆ joinLines lines := by
  induction lines with
  | nil => cases member
  | cons first lines ih =>
    cases lines with
    | nil =>
      rw [joinLines, List.intercalate_singleton, List.mem_singleton.mp member]
      exact List.Subset.refl first
    | cons next lines =>
      rw [joinLines, List.intercalate_cons_cons, List.append_assoc]
      rcases List.mem_cons.mp member with rfl | member
      · exact List.subset_append_left _ _
      · exact fun c inside => List.mem_append_right _ (List.mem_append_right _ (ih member inside))

/-! ## Blanks -/

theorem dropWhile_isBlank (clean : ∀ c ∈ text, isBlank c = false) : text.dropWhile isBlank = text := by
  cases text with
  | nil => rfl
  | cons c text => rw [List.dropWhile_cons, clean c List.mem_cons_self, if_neg Bool.false_ne_true]

theorem trim_eq_self (clean : ∀ c ∈ text, isBlank c = false) : trim text = text := by
  rw [trim, dropWhile_isBlank clean, dropWhile_isBlank fun c member => clean c (List.mem_reverse.mp member),
    List.reverse_reverse]

end PortMapper.Text
