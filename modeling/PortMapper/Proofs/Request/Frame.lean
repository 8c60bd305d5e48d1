import PortMapper.Frame
import PortMapper.Proofs.Reader

/-!
# Well-delimited frames

A frame splits exactly if it declares the length of what follows and a tag follows (`split_ok`), and then it
is the frame that is written of its parts (`write_ofByte`).
-/

namespace PortMapper.Frame

variable {frame body : Bytes} {byte : UInt8} {tag : Tag}

/-- The frame declares the length of what follows, and that is the byte of a tag and a body. -/
def Delimits (frame : Bytes) (byte : UInt8) (body : Bytes) : Prop :=
  ∃ high low, frame = high :: low :: byte :: body ∧
    (BigEndian.toUInt16 high low).toNat = (byte :: body).length

theorem split_ok :
    split frame = .ok (tag, body) ↔ ∃ byte, Delimits frame byte body ∧ Tag.ofByte byte = tag := by
  simp only [split, reader, Reader.read_ok, Reader.bind_ok, Reader.u16_ok, Reader.remaining_ok]
  constructor
  · rintro ⟨_, declared, _, rfl, available, _, ⟨rfl, rfl⟩, separated⟩
    split at separated
    · cases separated
    · next exact =>
      simp only [Reader.bind_ok, Reader.u8_ok, Reader.rest_ok, Reader.pure_ok,
        Prod.mk.injEq] at separated
      obtain ⟨byte, _, rfl, _, _, ⟨rfl, rfl⟩, ⟨rfl, rfl⟩, rfl⟩ := separated
      refine ⟨byte, ⟨_, _, rfl, ?_⟩, rfl⟩
      rw [BigEndian.toUInt16_ofUInt16]
      exact Decidable.not_not.mp exact
  · rintro ⟨byte, ⟨high, low, rfl, declared⟩, rfl⟩
    refine ⟨[], BigEndian.toUInt16 high low, byte :: body, ?_, _, _, ⟨rfl, rfl⟩, ?_⟩
    · exact (congrArg (· ++ byte :: body) (BigEndian.ofUInt16_toUInt16 high low)).symm
    · rw [if_neg (Decidable.not_not.mpr declared)]
      rfl

theorem untagged_reader : reader.Untagged := by
  unfold reader
  refine Reader.untagged_bind Reader.untagged_u16 fun declared =>
    Reader.untagged_bind Reader.untagged_remaining fun available => ?_
  split
  · exact Reader.untagged_fail fun _ _ => nofun
  · exact Reader.untagged_bind Reader.untagged_u8 fun _ =>
      Reader.untagged_bind Reader.untagged_rest fun _ => Reader.untagged_pure _

/-- A frame is what is written of its tag and body. -/
theorem write_ofByte :
    write (Tag.ofByte byte) body = .ok frame ↔ Delimits frame byte body := by
  rw [write, Tag.toByte_ofByte]
  constructor
  · intro wrote
    split at wrote
    · cases wrote
    · next fits =>
      cases wrote
      have small : (UInt16.ofNat (body.length + 1)).toNat = body.length + 1 := by
        rw [UInt16.toNat_ofNat', Nat.mod_eq_of_lt]
        rw [maxShortField] at fits
        omega
      refine ⟨_, _, rfl, ?_⟩
      rw [BigEndian.toUInt16_ofUInt16, small, List.length_cons]
  · rintro ⟨high, low, rfl, declared⟩
    have bound := (BigEndian.toUInt16 high low).toNat_lt
    rw [List.length_cons] at declared
    rw [if_neg (by rw [maxShortField]; omega), ← declared, UInt16.ofNat_toNat, BigEndian.ofUInt16_toUInt16]
    rfl

end PortMapper.Frame
