import PortMapper.Proofs.Reader
import PortMapper.Reply.Registration

/-!
# Registration replies read back

What is read as a registration reply is a refusal that ends after its status, or four bytes (`decode_ok`). So the first
four of some bytes are an acceptance if they are the four bytes of one (`decode_take_accept`), and a refusal if the
status says so and is followed by a creation number or by nothing (`decode_take_refused`).
-/

namespace PortMapper.RegistrationReply

variable {reply : RegistrationReply} {bytes : Bytes} {creation : UInt16}

theorem decode_ok : decode bytes = .ok reply ↔
    (∃ status, status ≠ 0 ∧ bytes = [121, status] ∧ reply = refuse) ∨
      ∃ status creation, bytes = 121 :: status :: BigEndian.ofUInt16 creation ∧ reply = ⟨status = 0, creation⟩ := by
  have named : Tag.ofByte Tag.alive2Response.toByte = .alive2Response := rfl
  simp only [decode, reader, Reader.read_ok, Reader.bind_ok, Reader.tag_ok named, Reader.u8_ok, Reader.remaining_ok]
  constructor
  · rintro ⟨_, _, _, rfl, status, rest, rfl, _, _, ⟨rfl, rfl⟩, read⟩
    split at read
    · next short =>
      obtain ⟨rfl, _⟩ := Reader.pure_ok.mp read
      rw [List.length_eq_zero_iff.mp short.2]
      exact .inl ⟨status, short.1, rfl, rfl⟩
    · simp only [Reader.bind_ok, Reader.u16_ok, Reader.finish_ok, Reader.pure_ok] at read
      obtain ⟨creation, _, rfl, _, _, ⟨rfl, _⟩, rfl, _⟩ := read
      exact .inr ⟨status, creation, rfl, rfl⟩
  · rintro (⟨status, negative, rfl, rfl⟩ | ⟨status, creation, rfl, rfl⟩)
    · exact ⟨[], (), _, rfl, status, [], rfl, _, _, ⟨rfl, rfl⟩, by rw [if_pos ⟨negative, rfl⟩]; rfl⟩
    · refine ⟨[], (), _, rfl, status, _, rfl, _, _, ⟨rfl, rfl⟩, ?_⟩
      rw [if_neg fun short => Nat.succ_ne_zero 1 short.2]
      simp only [Reader.bind_ok, Reader.u16_ok, Reader.finish_ok, Reader.pure_ok]
      exact ⟨creation, [], rfl, (), [], ⟨rfl, rfl⟩, rfl, rfl⟩

/-! ## Of the first four bytes -/

theorem decode_take_accept : decode (bytes.take wireLength) = .ok (accept creation) ↔
    121 :: 0 :: BigEndian.ofUInt16 creation <+: bytes := by
  rw [decode_ok, List.prefix_iff_eq_take]
  constructor
  · rintro (⟨_, _, _, ⟨⟩⟩ | ⟨status, number, taken, same⟩)
    obtain ⟨positive, rfl⟩ := (mk.injEq ..).mp same
    rw [of_decide_eq_true positive.symm] at taken
    exact taken.symm
  · intro taken
    exact .inr ⟨0, creation, taken.symm, rfl⟩

/-- The bytes say no, and then nothing, or at least as much as a creation number. -/
def Refuses (bytes : Bytes) : Prop :=
  ∃ status, status ≠ 0 ∧ (bytes = [121, status] ∨ [121, status] <+: bytes ∧ wireLength ≤ bytes.length)

theorem decode_take_refused :
    (∃ reply, decode (bytes.take wireLength) = .ok reply ∧ reply.accepted = false) ↔ Refuses bytes := by
  constructor
  · rintro ⟨reply, read, refused⟩
    rcases decode_ok.mp read with ⟨status, negative, taken, _⟩ | ⟨status, creation, taken, rfl⟩
    · have few := congrArg List.length taken
      rw [List.length_take, wireLength, List.length_cons, List.length_singleton] at few
      rw [List.take_of_length_le (by rw [wireLength]; omega)] at taken
      exact ⟨status, negative, .inl taken⟩
    · have front : [121, status] <+: bytes.take wireLength := taken ▸ ⟨_, rfl⟩
      have enough := congrArg List.length taken
      rw [List.length_take] at enough
      refine ⟨status, of_decide_eq_false refused, .inr ⟨front.trans (List.take_prefix _ _), ?_⟩⟩
      exact Nat.le_trans (Nat.le_of_eq enough.symm) (Nat.min_le_right _ _)
  · rintro ⟨status, negative, rfl | ⟨⟨rest, rfl⟩, enough⟩⟩
    · exact ⟨refuse, decode_ok.mpr (.inl ⟨status, negative, rfl, rfl⟩), rfl⟩
    · match rest with
      | [] | [_] => simp [wireLength] at enough
      | high :: low :: rest =>
        refine ⟨_, decode_ok.mpr (.inr ⟨status, BigEndian.toUInt16 high low, ?_, rfl⟩), decide_eq_false negative⟩
        rw [BigEndian.ofUInt16_toUInt16]
        rfl

end PortMapper.RegistrationReply
