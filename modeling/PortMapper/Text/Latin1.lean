import PortMapper.WireError

/-!
# Latin-1

Names and listings travel as Latin-1: every byte is the character of the same number, and a character
above U+00FF has no byte. Writing fails at the first such character and loses nothing otherwise
(`decode_encode`, `encode_decode`).
-/

namespace PortMapper.Text.Latin1

/-- Whether a character has a byte in Latin-1. -/
def isLatin1 (c : Char) : Bool :=
  c.toNat ≤ 0xff

/-- The bytes of a text; `field` is the name that the failure gives to it. -/
def encode (field : String) (text : Text) : Except WireError Bytes :=
  match text.find? (!isLatin1 ·) with
  | some c => .error (.notLatin1 field c)
  | none => .ok (text.map fun c => UInt8.ofNat c.toNat)

def decode (bytes : Bytes) : Text :=
  bytes.map fun byte => Char.ofNat byte.toNat

/-- A text is written exactly if each of its characters has a byte. -/
theorem exists_encode {field : String} {text : Text} :
    (∃ bytes, encode field text = .ok bytes) ↔ ∀ c ∈ text, isLatin1 c = true := by
  unfold encode
  split
  · next c bad =>
    constructor
    · rintro ⟨bytes, wrote⟩
      cases wrote
    · intro clean
      have latin := clean c (List.mem_of_find?_eq_some bad)
      have foreign := List.find?_some bad
      rw [latin] at foreign
      cases foreign
  · next clean => simpa using clean

theorem toNat_ofNat_byte (byte : UInt8) : (Char.ofNat byte.toNat).toNat = byte.toNat := by
  have bound := byte.toNat_lt
  have valid : byte.toNat.isValidChar := Or.inl (by omega)
  rw [Char.ofNat, dif_pos valid]
  rfl

theorem ofNat_toNat_char {c : Char} (h : isLatin1 c = true) :
    Char.ofNat (UInt8.ofNat c.toNat).toNat = c := by
  have small : c.toNat < 256 := by
    simp only [isLatin1, decide_eq_true_eq] at h
    omega
  rw [UInt8.toNat_ofNat', Nat.mod_eq_of_lt small, Char.ofNat_toNat]

theorem length_decode (bytes : Bytes) : (decode bytes).length = bytes.length := by
  simp [decode]

theorem decode_encode {field : String} {text : Text} {bytes : Bytes}
    (h : encode field text = .ok bytes) : decode bytes = text := by
  unfold encode at h
  split at h
  · cases h
  · next clean =>
    cases h
    rw [List.find?_eq_none] at clean
    rw [decode, List.map_map]
    conv => rhs; rw [← List.map_id text]
    apply List.map_congr_left
    intro c member
    exact ofNat_toNat_char (by simpa using clean c member)

/-- Any bytes are the writing of the text that they read as. -/
theorem encode_decode (field : String) (bytes : Bytes) :
    encode field (decode bytes) = .ok bytes := by
  have clean : (decode bytes).find? (!isLatin1 ·) = none := by
    rw [List.find?_eq_none]
    intro c member
    simp only [decode, List.mem_map] at member
    obtain ⟨byte, _, rfl⟩ := member
    have bound := byte.toNat_lt
    simp only [isLatin1, toNat_ofNat_byte, Bool.not_eq_true', decide_eq_false_iff_not,
      Decidable.not_not]
    omega
  have same : (decode bytes).map (fun c => UInt8.ofNat c.toNat) = bytes := by
    rw [decode, List.map_map]
    conv => rhs; rw [← List.map_id bytes]
    apply List.map_congr_left
    intro byte _
    simp [toNat_ofNat_byte]
  simp only [encode, clean, same]

end PortMapper.Text.Latin1
