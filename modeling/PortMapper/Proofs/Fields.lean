import PortMapper.Proofs.Reader

/-!
# Fields that are cut short

The bytes of a message are its fields in a row, and a two-byte length is a field of its own. A reader that takes
fields and looks at nothing else (`Reader.ReadsFields`) reads a value exactly if the fields of the value come first,
and fails exactly if the bytes end within the fields of some value (`EndsWithin`). Its error names the field that is
cut short, with how many bytes it has and how many of them are there. This is true of each reader of one field, and of
one reader after another (`ReadsFields.bind`).
-/

namespace PortMapper

/-- A field of a message: what it is called, and its bytes. -/
structure WireField where
  name : String
  bytes : Bytes
  deriving DecidableEq, Repr

namespace WireField

variable {fields front behind : List WireField} {field : WireField} {left : Bytes} {error : WireError}

/-- The bytes of some fields in a row. -/
def join (fields : List WireField) : Bytes :=
  fields.flatMap (·.bytes)

@[simp] theorem join_nil : join [] = [] := rfl

@[simp] theorem join_cons : join (field :: fields) = field.bytes ++ join fields := rfl

@[simp] theorem join_append : join (front ++ behind) = join front ++ join behind :=
  List.flatMap_append

/-- The bytes are all fields before some field and a part of that field, which is too short. The error names the
field, how many bytes it has and how many of them are there. -/
def EndsWithin (fields : List WireField) (left : Bytes) (error : WireError) : Prop :=
  ∃ before field behind part, fields = before ++ field :: behind ∧ left = join before ++ part ∧
    part <+: field.bytes ∧ part.length < field.bytes.length ∧
      error = .truncatedField field.name field.bytes.length part.length

theorem EndsWithin.error_eq (cut : EndsWithin fields left error) :
    ∃ name needed available, error = .truncatedField name needed available ∧ available < needed := by
  obtain ⟨_, _, _, _, _, _, _, short, rfl⟩ := cut
  exact ⟨_, _, _, rfl, short⟩

theorem not_endsWithin_nil : ¬ EndsWithin [] left error := by
  rintro ⟨before, field, behind, _, none, _⟩
  cases before <;> cases none

theorem endsWithin_singleton : EndsWithin [field] left error ↔
    left <+: field.bytes ∧ left.length < field.bytes.length ∧
      error = .truncatedField field.name field.bytes.length left.length := by
  constructor
  · rintro ⟨before, cut, behind, part, only, rfl, within, short, rfl⟩
    obtain ⟨rfl, rfl, rfl⟩ : before = [] ∧ cut = field ∧ behind = [] := by
      cases before with
      | nil => simpa [eq_comm] using only
      | cons => simp at only
    exact ⟨within, short, rfl⟩
  · rintro ⟨within, short, rfl⟩
    exact ⟨[], field, [], left, rfl, rfl, within, short, rfl⟩

/-- Bytes that end within some fields end within the first of them, or have these and end within the others. -/
theorem endsWithin_append : EndsWithin (front ++ behind) left error ↔
    EndsWithin front left error ∨ ∃ rest, left = join front ++ rest ∧ EndsWithin behind rest error := by
  constructor
  · rintro ⟨before, field, after, part, split, rfl, within, short, rfl⟩
    rcases List.append_eq_append_iff.mp split with ⟨more, rfl, rfl⟩ | ⟨more, rfl, rest⟩
    · refine .inr ⟨join more ++ part, ?_, more, field, after, part, rfl, rfl, within, short, rfl⟩
      rw [join_append, List.append_assoc]
    · cases more with
      | nil =>
        rw [List.nil_append] at rest
        subst rest
        refine .inr ⟨part, ?_, [], field, after, part, rfl, rfl, within, short, rfl⟩
        rw [List.append_nil]
      | cons =>
        obtain ⟨rfl, rfl⟩ := List.cons.inj rest
        exact .inl ⟨before, _, _, part, rfl, rfl, within, short, rfl⟩
  · rintro (⟨before, field, after, part, rfl, rfl, cut⟩ | ⟨_, rfl, before, field, after, part, rfl, rfl, cut⟩)
    · exact ⟨before, field, after ++ behind, part, by simp, rfl, cut⟩
    · exact ⟨front ++ before, field, after, part, by simp, by simp, cut⟩

/-- Bytes end within some fields exactly if they are a proper prefix of them. -/
theorem exists_endsWithin : (∃ error, EndsWithin fields left error) ↔ left <+: join fields ∧ left ≠ join fields := by
  constructor
  · rintro ⟨_, before, field, behind, part, rfl, rfl, ⟨rest, whole⟩, short, _⟩
    rw [join_append, join_cons, ← whole]
    refine ⟨⟨rest ++ join behind, by simp⟩, fun same => ?_⟩
    have lengths := congrArg List.length (List.append_cancel_left same)
    rw [← whole, List.length_append] at short
    simp only [List.length_append] at lengths
    omega
  · rintro ⟨within, other⟩
    induction fields generalizing left with
    | nil => exact absurd (List.prefix_nil.mp within) other
    | cons field fields ih =>
      rw [join_cons] at within other
      rcases Nat.lt_or_ge left.length field.bytes.length with short | enough
      · have part := List.prefix_of_prefix_length_le within (List.prefix_append ..) (Nat.le_of_lt short)
        exact ⟨_, [], field, fields, left, rfl, rfl, part, short, rfl⟩
      · obtain ⟨rest, rfl⟩ := List.prefix_of_prefix_length_le (List.prefix_append ..) within enough
        obtain ⟨error, cut⟩ := ih ((List.prefix_append_right_inj _).mp within) fun same => other (same ▸ rfl)
        have later : EndsWithin ([field] ++ fields) (field.bytes ++ rest) error :=
          endsWithin_append.mpr (.inr ⟨rest, by simp, cut⟩)
        exact ⟨error, later⟩

end WireField

/-! ## Readers of fields -/

namespace Reader

open WireField (join EndsWithin)

variable {α β : Type} {left rest : Bytes} {field : String} {error : WireError}

/-- The reader takes fields and looks at nothing else. `spells` says which fields a value can have. -/
structure ReadsFields (reader : Reader α) (spells : α → List WireField → Prop) : Prop where
  /-- A value is read exactly if its fields come first, and what follows is left. -/
  ok {left : Bytes} {value : α} {rest : Bytes} : reader.run left = (.ok value, rest) ↔
    ∃ fields, spells value fields ∧ left = join fields ++ rest
  /-- Reading fails exactly if the bytes end within the fields of some value. -/
  error {left : Bytes} {error : WireError} : reader.read left = .error error ↔
    ∃ value fields, spells value fields ∧ EndsWithin fields left error
  /-- Some value has fields, whatever was read before. -/
  possible : ∃ value fields, spells value fields

namespace ReadsFields

variable {reader : Reader α} {spells : α → List WireField → Prop}

theorem of_iff {other : α → List WireField → Prop} (reads : reader.ReadsFields spells)
    (same : ∀ value fields, spells value fields ↔ other value fields) : reader.ReadsFields other := by
  have equal : spells = other := funext fun value => funext fun fields => propext (same value fields)
  exact equal ▸ reads

theorem pure (given : α) : (pure given : Reader α).ReadsFields fun value fields => given = value ∧ fields = [] where
  ok := by
    simp only [pure_ok, and_assoc, exists_and_left, exists_eq_left, WireField.join_nil, List.nil_append, implies_true]
  error := by simp [pure_error, WireField.not_endsWithin_nil]
  possible := ⟨given, [], rfl, rfl⟩

/-- A reader of fields that is followed by another one reads the fields of both. -/
theorem bind {next : α → Reader β} {spellsNext : α → β → List WireField → Prop} (first : reader.ReadsFields spells)
    (second : ∀ value, (next value).ReadsFields (spellsNext value)) :
    (reader >>= next).ReadsFields fun value fields => ∃ middle front, spells middle front ∧
      ∃ behind, fields = front ++ behind ∧ spellsNext middle value behind where
  ok := by
    intro left value rest
    rw [bind_ok]
    constructor
    · rintro ⟨middle, _, taken, read⟩
      obtain ⟨front, spelled, rfl⟩ := first.ok.mp taken
      obtain ⟨behind, more, rfl⟩ := (second middle).ok.mp read
      exact ⟨_, ⟨middle, front, spelled, behind, rfl, more⟩, by simp⟩
    · rintro ⟨_, ⟨middle, front, spelled, behind, rfl, more⟩, rfl⟩
      exact ⟨middle, join behind ++ rest, first.ok.mpr ⟨front, spelled, by simp⟩,
        (second middle).ok.mpr ⟨behind, more, rfl⟩⟩
  error := by
    intro left error
    rw [bind_error]
    constructor
    · rintro (failed | ⟨middle, rest, taken, failed⟩)
      -- The fields that were not reached are those of any value that can still come.
      · obtain ⟨middle, front, spelled, cut⟩ := first.error.mp failed
        obtain ⟨value, behind, more⟩ := (second middle).possible
        exact ⟨value, _, ⟨middle, front, spelled, behind, rfl, more⟩, WireField.endsWithin_append.mpr (.inl cut)⟩
      · obtain ⟨front, spelled, split⟩ := first.ok.mp taken
        obtain ⟨value, behind, more, cut⟩ := (second middle).error.mp failed
        exact ⟨value, _, ⟨middle, front, spelled, behind, rfl, more⟩,
          WireField.endsWithin_append.mpr (.inr ⟨rest, split, cut⟩)⟩
    · rintro ⟨value, _, ⟨middle, front, spelled, behind, rfl, more⟩, cut⟩
      rcases WireField.endsWithin_append.mp cut with cut | ⟨rest, split, cut⟩
      · exact .inl (first.error.mpr ⟨middle, front, spelled, cut⟩)
      · exact .inr ⟨middle, rest, first.ok.mpr ⟨front, spelled, split⟩,
          (second middle).error.mpr ⟨value, behind, more, cut⟩⟩
  possible := by
    obtain ⟨middle, front, spelled⟩ := first.possible
    obtain ⟨value, behind, more⟩ := (second middle).possible
    exact ⟨value, _, middle, front, spelled, behind, rfl, more⟩

theorem u8 : (u8 field).ReadsFields fun byte fields => fields = [⟨field, [byte]⟩] where
  ok := by simp [u8_ok]
  error := by
    intro left error
    simp only [exists_eq_left, WireField.endsWithin_singleton]
    cases left with
    | nil => simp [read, run, Reader.u8, eq_comm]
    | cons head tail => simp [read, run, Reader.u8]
  possible := ⟨0, _, rfl⟩

theorem u16 : (u16 field).ReadsFields fun n fields => fields = [⟨field, BigEndian.ofUInt16 n⟩] where
  ok := by simp [u16_ok]
  error := by
    intro left error
    simp only [exists_eq_left, WireField.endsWithin_singleton]
    match left with
    | [] => simp [read, run, Reader.u16, eq_comm]
    | [high] =>
      have some : ∃ n, [high] <+: BigEndian.ofUInt16 n := by
        refine ⟨BigEndian.toUInt16 high 0, ?_⟩
        rw [BigEndian.ofUInt16_toUInt16]
        exact ⟨[0], rfl⟩
      simp [read, run, Reader.u16, eq_comm, some]
    | high :: low :: tail =>
      constructor
      · intro failed
        cases failed
      · rintro ⟨n, _, short, _⟩
        simp only [List.length_cons, BigEndian.length_ofUInt16] at short
        omega
  possible := ⟨0, _, rfl⟩

theorem bytes (count : Nat) : (bytes field count).ReadsFields fun content fields =>
    content.length = count ∧ fields = [⟨field, content⟩] where
  ok := by
    simp only [bytes_ok, and_assoc, exists_and_left, exists_eq_left, WireField.join_cons, WireField.join_nil,
      List.append_nil, implies_true]
  error := by
    intro left error
    have run : (Reader.bytes field count).read left = .error error ↔
        left.length < count ∧ error = .truncatedField field count left.length := by
      unfold read run Reader.bytes
      split
      · next short => simp [short, eq_comm]
      · next enough => simp [enough]
    rw [run]
    constructor
    · rintro ⟨short, rfl⟩
      have length : (left ++ List.replicate (count - left.length) 0).length = count := by
        rw [List.length_append, List.length_replicate]
        omega
      refine ⟨_, _, ⟨length, rfl⟩, WireField.endsWithin_singleton.mpr ⟨List.prefix_append .., ?_, ?_⟩⟩
      · exact length.symm ▸ short
      · rw [length]
    · rintro ⟨content, _, ⟨rfl, rfl⟩, cut⟩
      obtain ⟨_, short, rfl⟩ := WireField.endsWithin_singleton.mp cut
      exact ⟨short, rfl⟩
  possible := ⟨List.replicate count 0, _, List.length_replicate, rfl⟩

/-! ## Fields that fill a message -/

variable {size : α → Nat} {build : α → β}

/-- A message of fields is read exactly if they are all there is. -/
theorem message_ok (reads : reader.ReadsFields spells) {message : β} :
    (do let value ← reader; finish (size value); return build value : Reader β).read left = .ok message ↔
      ∃ value fields, spells value fields ∧ left = join fields ∧ build value = message := by
  simp only [read_ok, bind_ok, reads.ok, finish_ok, pure_ok]
  constructor
  · rintro ⟨_, value, _, ⟨fields, spelled, rfl⟩, _, _, ⟨rfl, rfl⟩, rfl, rfl⟩
    exact ⟨value, fields, spelled, List.append_nil _, rfl⟩
  · rintro ⟨value, fields, spelled, rfl, rfl⟩
    exact ⟨[], value, [], ⟨fields, spelled, (List.append_nil _).symm⟩, (), [], ⟨rfl, rfl⟩, rfl, rfl⟩

/-- Reading a message of fields fails exactly if the bytes end within them or go on after them. -/
theorem message_error (reads : reader.ReadsFields spells) :
    (do let value ← reader; finish (size value); return build value : Reader β).read left = .error error ↔
      (∃ value fields, spells value fields ∧ EndsWithin fields left error) ∨
        ∃ value fields rest, spells value fields ∧ left = join fields ++ rest ∧ rest ≠ [] ∧
          error = .lengthMismatch (size value) (size value + rest.length) := by
  simp only [bind_error, reads.error, reads.ok, finish_error, pure_error, and_false, exists_false, or_false]
  refine or_congr_right ⟨?_, ?_⟩
  · rintro ⟨value, rest, ⟨fields, spelled, rfl⟩, more, rfl⟩
    exact ⟨value, fields, rest, spelled, rfl, more, rfl⟩
  · rintro ⟨value, fields, rest, spelled, rfl, more, rfl⟩
    exact ⟨value, rest, ⟨fields, spelled, rfl⟩, more, rfl⟩

end ReadsFields

end Reader

end PortMapper
