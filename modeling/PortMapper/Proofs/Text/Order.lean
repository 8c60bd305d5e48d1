import Mathlib.Data.List.Basic
import Mathlib.Tactic.SplitIfs
import PortMapper.Text.Latin1
import PortMapper.Text.Utf8

/-!
# The order of texts and of their bytes

Texts are ordered by the numbers of their characters. That is the order of their bytes in UTF-8 (`encode_lt_encode`),
and for texts that were read as Latin-1 it is the order of the bytes that they were read from
(`decode_lt_decode_iff`).
-/

namespace PortMapper.Text

namespace Latin1

theorem ofNat_lt_ofNat_iff {byte other : UInt8} :
    Char.ofNat byte.toNat < Char.ofNat other.toNat ↔ byte < other := by
  change (Char.ofNat byte.toNat).toNat < (Char.ofNat other.toNat).toNat ↔ _
  rw [toNat_ofNat_byte, toNat_ofNat_byte, UInt8.lt_iff_toNat_lt]

theorem ofNat_inj {byte other : UInt8} : Char.ofNat byte.toNat = Char.ofNat other.toNat ↔ byte = other := by
  constructor
  · intro same
    have numbers := congrArg Char.toNat same
    rw [toNat_ofNat_byte, toNat_ofNat_byte] at numbers
    exact UInt8.toNat.inj numbers
  · rintro rfl
    rfl

theorem decode_lt_decode_iff {bytes others : Bytes} : decode bytes < decode others ↔ bytes < others := by
  induction bytes generalizing others with
  | nil => cases others <;> simp [decode]
  | cons byte bytes ih =>
    cases others with
    | nil => simp [decode]
    | cons other others =>
      rw [decode, decode, List.map_cons, List.map_cons, List.cons_lt_cons_iff, List.cons_lt_cons_iff,
        ofNat_lt_ofNat_iff, ofNat_inj]
      exact or_congr_right (and_congr_right fun _ => ih)

end Latin1

namespace Utf8

theorem ofNat_cons_lt_iff {number other : Nat} (bound : number < 256) (otherBound : other < 256)
    {bytes others : Bytes} :
    UInt8.ofNat number :: bytes < UInt8.ofNat other :: others ↔
      number < other ∨ number = other ∧ bytes < others := by
  rw [List.cons_lt_cons_iff, UInt8.lt_iff_toNat_lt, ← UInt8.toNat_inj, UInt8.toNat_ofNat', UInt8.toNat_ofNat',
    Nat.mod_eq_of_lt bound, Nat.mod_eq_of_lt otherBound]

/-- The bytes of the lower one of two characters are lower, whatever follows them. -/
theorem encodeChar_append_lt {c d : Char} (lower : c < d) (bytes others : Bytes) :
    String.utf8EncodeChar c ++ bytes < String.utf8EncodeChar d ++ others := by
  have below : c.val.toNat < d.val.toNat := lower
  have bound : d.val.toNat < 1114112 := by
    rcases d.valid with low | ⟨_, high⟩
    · exact Nat.lt_trans low (by decide)
    · exact high
  simp only [String.utf8EncodeChar]
  generalize c.val.toNat = v at below
  generalize d.val.toNat = w at below bound
  have top : v / 262144 % 8 = v / 4096 / 64 ∧ w / 262144 % 8 = w / 4096 / 64 := by omega
  have upper : v / 4096 ≤ w / 4096 := by omega
  rw [top.1, top.2]
  -- Sixteen pairs of lengths: a longer writing starts with a higher byte, and one of the same length has a higher
  -- digit first, above or below the last twelve bits.
  by_cases high : v / 4096 = w / 4096
  · split_ifs <;> simp (disch := omega) only [List.cons_append, List.nil_append, ofNat_cons_lt_iff] <;> omega
  · split_ifs <;> simp (disch := omega) only [List.cons_append, List.nil_append, ofNat_cons_lt_iff] <;> omega

theorem encode_cons (c : Char) (text : Text) : encode (c :: text) = String.utf8EncodeChar c ++ encode text := by
  simp only [encode, String.toByteArray_ofList, List.utf8Encode, List.flatMap_cons, List.data_toByteArray]

theorem encode_lt_encode {text other : Text} (lower : text < other) : encode text < encode other := by
  induction text generalizing other with
  | nil =>
    cases other with
    | nil => exact absurd lower (List.lt_irrefl _)
    | cons d other =>
      rw [encode_cons, encode]
      obtain ⟨byte, bytes, start⟩ := List.exists_cons_of_ne_nil (String.utf8EncodeChar_ne_nil (c := d))
      rw [start]
      exact List.nil_lt_cons _ _
  | cons c text ih =>
    cases other with
    | nil => exact absurd lower (List.not_lt_nil _)
    | cons d other =>
      rw [encode_cons, encode_cons]
      rcases List.cons_lt_cons_iff.mp lower with below | ⟨rfl, rest⟩
      · exact encodeChar_append_lt below _ _
      · exact List.append_left_lt (ih rest)

end Utf8

end PortMapper.Text
