import PortMapper.Text.Decimal
import PortMapper.Proofs.Text.Lines

/-!
# Decimal numbers read back

What is written for a number are digits only (`isDigit_of_mem_write`), and they are read as that number if the
limit allows it (`read_write`).
-/

namespace PortMapper.Text.Decimal

theorem isDigit_of_mem_write {n : Nat} {c : Char} (member : c ∈ write n) : c.isDigit = true :=
  Nat.isDigit_of_mem_toDigits (by decide) (by decide) member

theorem write_ne_nil (n : Nat) : write n ≠ [] :=
  Nat.toDigits_ne_nil

theorem toNat_of_isDigit {c : Char} (digit : c.isDigit = true) : 48 ≤ c.toNat ∧ c.toNat ≤ 57 := by
  simpa [Char.isDigit, UInt32.le_iff_toNat_le] using digit

theorem isBlank_of_isDigit {c : Char} (digit : c.isDigit = true) : isBlank c = false := by
  obtain ⟨lower, upper⟩ := toNat_of_isDigit digit
  simp only [isBlank, Bool.or_eq_false_iff, Bool.and_eq_false_iff, decide_eq_false_iff_not,
    beq_eq_false_iff_ne]
  omega

@[simp] theorem trim_write (n : Nat) : trim (write n) = write n :=
  trim_eq_self fun _ member => isBlank_of_isDigit (isDigit_of_mem_write member)

/-- A text that ends with a number ends with a digit. -/
theorem getLast?_append_write (text : Text) (n : Nat) :
    ∃ last, (text ++ write n).getLast? = some last ∧ last.isDigit = true := by
  have ends := List.getLast?_eq_some_getLast (write_ne_nil n)
  refine ⟨_, ?_, isDigit_of_mem_write (List.getLast_mem (write_ne_nil n))⟩
  rw [List.getLast?_append, ends, Option.some_or]

theorem digit?_of_isDigit {c : Char} (digit : c.isDigit = true) :
    digit? 10 c = some (c.toNat - '0'.toNat) := by
  obtain ⟨lower, upper⟩ := toNat_of_isDigit digit
  have range : '0' ≤ c ∧ c ≤ '9' := by
    simp only [Char.le_def, UInt32.le_iff_toNat_le]
    exact ⟨lower, upper⟩
  have small : c.toNat - 0x30 < 10 := by omega
  rw [digit?, digitValue, if_pos range, Option.filter_some, if_pos (by simpa using small)]
  rfl

/-- Digits behind a number are read as the number that they make together, if the limit allows it. -/
theorem readDigits_of_isDigit {limit value : Nat} {digits : Text}
    (each : ∀ c ∈ digits, c.isDigit = true) (small : Nat.ofDigitChars 10 digits value ≤ limit) :
    readDigits limit value digits = .ok (Nat.ofDigitChars 10 digits value) := by
  induction digits generalizing value with
  | nil => rw [readDigits, Nat.ofDigitChars_nil]
  | cons c digits ih =>
    obtain ⟨digit, each⟩ := List.forall_mem_cons.mp each
    rw [Nat.ofDigitChars_cons, Nat.mul_comm] at small ⊢
    -- More digits make a number no smaller, so no part of it is over the limit.
    have fits : value * 10 + (c.toNat - '0'.toNat) ≤ limit := by
      refine Nat.le_trans ?_ small
      rw [Nat.ofDigitChars_eq_ofDigitChars_zero]
      exact Nat.le_trans (Nat.le_mul_of_pos_left _ (Nat.pow_pos (by decide))) (Nat.le_add_right _ _)
    simp only [readDigits, digit?_of_isDigit digit, if_pos fits]
    exact ih each small

theorem read_write {limit n : Nat} (small : n ≤ limit) : read limit (write n) = .ok n := by
  have whole : readDigits limit 0 (write n) = .ok n := by
    have made : Nat.ofDigitChars 10 (write n) 0 = n := Nat.ofDigitChars_ten_toDigits
    rw [readDigits_of_isDigit (fun _ => isDigit_of_mem_write) (by rwa [made]), made]
  unfold read
  split
  · next empty => exact absurd empty (write_ne_nil n)
  · next plus =>
    have digit := isDigit_of_mem_write (n := n) (plus ▸ List.mem_cons_self)
    cases digit
  · next plus =>
    have digit := isDigit_of_mem_write (n := n) (plus ▸ List.mem_cons_self)
    cases digit
  · exact whole

theorem readUInt16_write (n : UInt16) : readUInt16 (write n.toNat) = .ok n := by
  have bound := n.toNat_lt
  rw [readUInt16, read_write (by omega), Except.map, UInt16.ofNat_toNat]

theorem readUInt64_write (n : UInt64) : readUInt64 (write n.toNat) = .ok n := by
  have bound := n.toNat_lt
  rw [readUInt64, read_write (by omega), Except.map, UInt64.ofNat_toNat]

end PortMapper.Text.Decimal
