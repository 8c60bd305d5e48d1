import PortMapper.Reader

/-!
# What a reader has read

A reader of fields succeeds exactly on the writing of its value, whatever follows, and leaves what follows
(`u8_ok`, `u16_ok`, `bytes_ok`, `short_ok`, `tag_ok`). One reader after another succeeds if both do (`bind_ok`), and
fails if either does (`bind_error`). Only a reader that looks for a tag can fail on one (`Untagged`).
-/

namespace PortMapper

theorem bind_eq_ok {ε α β : Type} {first : Except ε α} {next : α → Except ε β} {value : β} :
    first >>= next = .ok value ↔ ∃ middle, first = .ok middle ∧ next middle = .ok value := by
  cases first with
  | ok middle => simp [bind, Except.bind]
  | error error => simp [bind, Except.bind]

theorem bind_eq_error {ε α β : Type} {first : Except ε α} {next : α → Except ε β} {error : ε} :
    first >>= next = .error error ↔
      first = .error error ∨ ∃ middle, first = .ok middle ∧ next middle = .error error := by
  cases first with
  | ok middle => simp [bind, Except.bind]
  | error other => simp [bind, Except.bind]

namespace Reader

variable {α β : Type} {left rest : Bytes} {field : String}

theorem pure_ok {given value : α} :
    (pure given : Reader α).run left = (.ok value, rest) ↔ given = value ∧ left = rest := by
  simp

theorem bind_ok {reader : Reader α} {next : α → Reader β} {value : β} :
    (reader >>= next).run left = (.ok value, rest) ↔
      ∃ first middle, reader.run left = (.ok first, middle) ∧
        (next first).run middle = (.ok value, rest) := by
  rw [run_bind]
  obtain ⟨result, middle⟩ := reader.run left
  cases result with
  | ok first =>
    constructor
    · intro read
      exact ⟨first, middle, rfl, read⟩
    · rintro ⟨_, _, same, read⟩
      cases same
      exact read
  | error error => simp

theorem read_ok {reader : Reader α} {value : α} :
    reader.read left = .ok value ↔ ∃ rest, reader.run left = (.ok value, rest) := by
  unfold read
  obtain ⟨result, middle⟩ := reader.run left
  simp

theorem u8_ok {byte : UInt8} : (u8 field).run left = (.ok byte, rest) ↔ left = byte :: rest := by
  cases left with
  | nil => simp [run, u8]
  | cons head tail => simp [run, u8]

theorem u16_ok {n : UInt16} :
    (u16 field).run left = (.ok n, rest) ↔ left = BigEndian.ofUInt16 n ++ rest := by
  constructor
  · intro read
    match left with
    | [] | [_] => cases read
    | high :: low :: tail =>
      cases read
      rw [BigEndian.ofUInt16_toUInt16]
      rfl
  · rintro rfl
    exact u16_append field n rest

theorem bytes_ok {count : Nat} {content : Bytes} :
    (bytes field count).run left = (.ok content, rest) ↔
      content.length = count ∧ left = content ++ rest := by
  constructor
  · intro read
    unfold run bytes at read
    split at read
    · cases read
    · next enough =>
      cases read
      exact ⟨List.length_take_of_le (Nat.le_of_not_lt enough), (List.take_append_drop ..).symm⟩
  · rintro ⟨rfl, rfl⟩
    exact bytes_append field content rest

theorem short_ok {content : Bytes} :
    (short field).run left = (.ok content, rest) ↔
      ∃ written, shortField field content = .ok written ∧ left = written ++ rest := by
  constructor
  · intro read
    obtain ⟨count, middle, counted, taken⟩ := bind_ok.mp read
    rw [u16_ok] at counted
    obtain ⟨length, split⟩ := bytes_ok.mp taken
    -- Two bytes cannot announce more than a short field may hold.
    have fits : ¬ content.length > maxShortField := by
      have bound := count.toNat_lt
      rw [length, maxShortField]
      omega
    refine ⟨BigEndian.ofUInt16 count ++ content, ?_, ?_⟩
    · rw [shortField, if_neg fits, length, UInt16.ofNat_toNat]
    · rw [counted, split, List.append_assoc]
  · rintro ⟨written, wrote, rfl⟩
    exact short_field rest wrote

theorem rest_ok {content : Bytes} :
    Reader.rest.run left = (.ok content, rest) ↔ left = content ∧ rest = [] := by
  simp [run, Reader.rest, eq_comm]

theorem remaining_ok {available : Nat} :
    remaining.run left = (.ok available, rest) ↔ left.length = available ∧ left = rest := by
  simp [run, remaining]

/-- The tag that is expected is read from its byte, if it is under its name. -/
theorem tag_ok {expected : Tag} (named : Tag.ofByte expected.toByte = expected) {done : Unit} :
    (tag expected).run left = (.ok done, rest) ↔ left = expected.toByte :: rest := by
  rw [tag, bind_ok]
  simp only [u8_ok]
  constructor
  · rintro ⟨byte, middle, rfl, checked⟩
    split at checked
    · next found =>
      cases checked
      rw [← found, Tag.toByte_ofByte]
    · cases checked
  · rintro rfl
    exact ⟨expected.toByte, rest, rfl, by rw [if_pos named]; rfl⟩

theorem finish_ok {consumed : Nat} {done : Unit} :
    (finish consumed).run left = (.ok done, rest) ↔ left = [] ∧ rest = [] := by
  cases left with
  | nil => simp [run, finish, eq_comm]
  | cons head tail => simp [run, finish]

/-! ## Failing -/

theorem pure_error {given : α} {error : WireError} : (pure given : Reader α).read left = .error error ↔ False := by
  simp [read]

theorem bind_error {reader : Reader α} {next : α → Reader β} {error : WireError} :
    (reader >>= next).read left = .error error ↔ reader.read left = .error error ∨
      ∃ value rest, reader.run left = (.ok value, rest) ∧ (next value).read rest = .error error := by
  rw [read, run_bind, read]
  obtain ⟨result, middle⟩ := reader.run left
  cases result with
  | ok value =>
    constructor
    · intro failed
      exact .inr ⟨value, middle, rfl, failed⟩
    · rintro (failed | ⟨_, _, same, failed⟩)
      · cases failed
      · cases same
        exact failed
  | error other => simp

theorem finish_error {consumed : Nat} {error : WireError} :
    (finish consumed).read left = .error error ↔
      left ≠ [] ∧ error = .lengthMismatch consumed (consumed + left.length) := by
  cases left with
  | nil => simp [read, run, finish]
  | cons head tail => simp [read, run, finish, eq_comm]

/-! ## Failing on a tag -/

/-- Whatever the reader is given, it does not fail because of a tag. -/
def Untagged (reader : Reader α) : Prop :=
  ∀ left expected found rest, reader.run left ≠ (.error (.unexpectedTag expected found), rest)

theorem Untagged.read {reader : Reader α} (untagged : reader.Untagged) {bytes : Bytes}
    {expected found : Tag} : reader.read bytes ≠ .error (.unexpectedTag expected found) := by
  intro failed
  exact untagged bytes expected found (reader.run bytes).2 (Prod.ext failed rfl)

theorem untagged_pure (value : α) : (pure value : Reader α).Untagged := by
  intro left expected found rest failed
  cases failed

theorem untagged_bind {reader : Reader α} {next : α → Reader β} (first : reader.Untagged)
    (second : ∀ value, (next value).Untagged) : (reader >>= next).Untagged := by
  intro left expected found rest failed
  rw [run_bind] at failed
  cases taken : reader.run left with
  | mk result middle =>
    rw [taken] at failed
    cases result with
    | ok value => exact second value middle expected found rest failed
    | error error =>
      cases failed
      exact first left expected found rest taken

theorem untagged_fail {error : WireError}
    (other : ∀ expected found, error ≠ .unexpectedTag expected found) :
    (fail error : Reader α).Untagged := by
  intro left expected found rest failed
  cases failed
  exact other expected found rfl

theorem untagged_u8 : (u8 field).Untagged := by
  intro left expected found rest failed
  cases left <;> cases failed

theorem untagged_u16 : (u16 field).Untagged := by
  intro left expected found rest failed
  match left with
  | [] | [_] | _ :: _ :: _ => cases failed

theorem untagged_bytes (count : Nat) : (bytes field count).Untagged := by
  intro left expected found rest failed
  unfold run bytes at failed
  split at failed <;> cases failed

theorem untagged_short : (short field).Untagged :=
  untagged_bind untagged_u16 fun count => untagged_bytes count.toNat

theorem untagged_rest : Reader.rest.Untagged := by
  intro left expected found rest failed
  cases failed

theorem untagged_remaining : remaining.Untagged := by
  intro left expected found rest failed
  cases failed

theorem untagged_finish (consumed : Nat) : (finish consumed).Untagged := by
  intro left expected found rest failed
  cases left <;> cases failed

end Reader

end PortMapper
