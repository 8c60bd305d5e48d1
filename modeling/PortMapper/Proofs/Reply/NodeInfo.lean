import PortMapper.Proofs.Request.Fitting
import PortMapper.Reply.NodeInfo

/-!
# Node infos read back

An answer to a lookup that was written reads back, each code of the description under its name (`decode_encode`), and a
description that is read was written as just these bytes (`decode_found`). The status decides which of the two grammars
the rest has: after a zero it is one description, and after anything else it does not count (`decode_notFound`).
-/

namespace PortMapper.NodeInfo

variable {info : NodeInfo} {node : NodeDescription} {bytes : Bytes}

/-- The answer with each code that has a name under that name. -/
def normalise : NodeInfo → NodeInfo
  | found node => found node.normalise
  | notFound => notFound

theorem decode_encode (wrote : info.encode = .ok bytes) : decode bytes = .ok info.normalise := by
  cases info with
  | found node =>
    obtain ⟨body, written, ⟨⟩⟩ := bind_eq_ok.mp wrote
    have whole := NodeDescription.reader_encode written []
    rw [List.append_nil] at whole
    have status : (Reader.u8 "status").run (0 :: body) = (.ok 0, body) := rfl
    have tag : (Reader.tag .port2Response).run (Tag.port2Response.toByte :: 0 :: body) = (.ok (), 0 :: body) := rfl
    simp only [decode, Reader.read, reader, Reader.run_bind, tag, status, ne_eq, not_true_eq_false, if_false,
      whole]
    rfl
  | notFound =>
    cases wrote
    rfl

theorem found_encode :
    (found node).encode = .ok bytes ↔ ∃ written, node.encode = .ok written ∧ bytes = 119 :: 0 :: written := by
  rw [encode, bind_eq_ok]
  constructor
  · rintro ⟨written, wrote, ⟨⟩⟩
    exact ⟨written, wrote, rfl⟩
  · rintro ⟨written, wrote, rfl⟩
    exact ⟨written, wrote, rfl⟩

theorem exists_encode : (∃ bytes, (found node).encode = .ok bytes) ↔ ∃ written, node.encode = .ok written := by
  constructor
  · rintro ⟨bytes, wrote⟩
    obtain ⟨written, described, _⟩ := found_encode.mp wrote
    exact ⟨written, described⟩
  · rintro ⟨written, described⟩
    exact ⟨_, found_encode.mpr ⟨written, described, rfl⟩⟩

/-! ## What is read -/

/-- Every answer begins with the tag and a status. -/
theorem decode_ok : decode bytes = .ok info ↔ ∃ status rest, bytes = 119 :: status :: rest ∧
    (if status ≠ 0 then info = notFound
      else ∃ node, node.encode = .ok rest ∧ node.normalise = node ∧ info = found node) := by
  have named : Tag.ofByte Tag.port2Response.toByte = .port2Response := rfl
  simp only [decode, reader, Reader.read_ok, Reader.bind_ok, Reader.tag_ok named, Reader.u8_ok]
  constructor
  · rintro ⟨_, _, _, rfl, status, rest, rfl, read⟩
    refine ⟨status, rest, rfl, ?_⟩
    split at read
    · next negative =>
      obtain ⟨same, _⟩ := Reader.pure_ok.mp read
      rw [if_pos negative, same]
    · next positive =>
      simp only [Reader.bind_ok, NodeDescription.reader_ok, Reader.finish_ok, Reader.pure_ok] at read
      obtain ⟨node, _, ⟨written, wrote, rfl, named⟩, _, _, ⟨rfl, rfl⟩, rfl, rfl⟩ := read
      rw [if_neg positive, List.append_nil]
      exact ⟨node, wrote, named, rfl⟩
  · rintro ⟨status, rest, rfl, answer⟩
    split at answer
    · next negative =>
      subst answer
      exact ⟨rest, (), _, rfl, status, rest, rfl, by rw [if_pos negative]; rfl⟩
    · next positive =>
      obtain ⟨node, wrote, named, rfl⟩ := answer
      refine ⟨[], (), _, rfl, status, rest, rfl, ?_⟩
      rw [if_neg positive]
      simp only [Reader.bind_ok, NodeDescription.reader_ok, Reader.finish_ok, Reader.pure_ok]
      exact ⟨node, [], ⟨rest, wrote, (List.append_nil rest).symm, named⟩, (), [], ⟨rfl, rfl⟩, rfl, rfl⟩

theorem decode_notFound : decode bytes = .ok notFound ↔
    ∃ status rest, status ≠ 0 ∧ bytes = 119 :: status :: rest := by
  rw [decode_ok]
  constructor
  · rintro ⟨status, rest, rfl, answer⟩
    split at answer
    · next negative => exact ⟨status, rest, negative, rfl⟩
    · obtain ⟨_, _, _, ⟨⟩⟩ := answer
  · rintro ⟨status, rest, negative, rfl⟩
    exact ⟨status, rest, rfl, by rw [if_pos negative]⟩

/-- What is read of an answer with a description is the description that is written as the answer. -/
theorem decode_found : decode bytes = .ok (found node) ↔ (found node).encode = .ok bytes ∧ node.normalise = node := by
  rw [found_encode, decode_ok]
  constructor
  · rintro ⟨status, rest, rfl, answer⟩
    split at answer
    · cases answer
    · next positive =>
      obtain ⟨node, wrote, named, ⟨⟩⟩ := answer
      rw [Decidable.not_not.mp positive]
      exact ⟨⟨rest, wrote, rfl⟩, named⟩
  · rintro ⟨⟨rest, wrote, rfl⟩, named⟩
    exact ⟨0, rest, rfl, by rw [if_neg (Decidable.not_not.mpr rfl)]; exact ⟨node, wrote, named, rfl⟩⟩

/-! ## The code of answers -/

/-- An answer with a description is written exactly if the name of the node is Latin-1 and the name and the extra bytes
fit the two bytes that say how long each of them is, however long they are together. What was written reads back with
each code under its name, so it is the very same answer if no code is a bare number that has a name. A description is
read only of the bytes that it is written as, and the answer that there is no such node of every message with a status
that is not zero, whatever follows. -/
theorem answer_is_written_iff_fields_fit :
    (∀ node, (∃ bytes, (found node).encode = .ok bytes) ↔
      (∀ c ∈ node.name, c.toNat ≤ 0xff) ∧ node.name.length ≤ 65535 ∧ node.extra.length ≤ 65535) ∧
    (∀ node bytes, (found node).encode = .ok bytes →
      decode bytes = .ok (found node.normalise) ∧ (node.CodesNamed ↔ decode bytes = .ok (found node))) ∧
    (∃ bytes, notFound.encode = .ok bytes ∧ decode bytes = .ok notFound) ∧
    (∀ node bytes, decode bytes = .ok (found node) ↔ (found node).encode = .ok bytes ∧ node.normalise = node) ∧
    (∀ bytes, decode bytes = .ok notFound ↔ ∃ status rest, status ≠ 0 ∧ bytes = 119 :: status :: rest) := by
  refine ⟨fun node => ?_, fun node bytes wrote => ⟨decode_encode wrote, ?_⟩, ⟨_, rfl, rfl⟩,
    fun _ _ => decode_found, fun _ => decode_notFound⟩
  · rw [exists_encode, NodeDescription.exists_encode, maxShortField]
  · rw [decode_encode wrote, ← NodeDescription.normalise_eq_self, normalise, Except.ok.injEq, found.injEq]

/-- The longest name and the most extra bytes at once, and a node type that is given as a bare number. -/
def crowded : NodeDescription where
  port := 9
  nodeType := .unknown 77
  name := List.replicate 65535 'é'
  extra := List.replicate 65535 0

/-- The answer that describes such a node is written, and reads back with the name of its node type. -/
theorem answer_is_written_iff_fields_fit_of_crowded :
    ∃ bytes, (found crowded).encode = .ok bytes ∧ bytes.length = 131084 ∧ ¬ crowded.CodesNamed ∧
      decode bytes = .ok (found { crowded with nodeType := .r3Erlang }) := by
  obtain ⟨fits, reads, _⟩ := answer_is_written_iff_fields_fit
  have latin : ∀ c ∈ crowded.name, c.toNat ≤ 0xff := fun c member => by
    rw [List.eq_of_mem_replicate member]
    decide
  have named : crowded.name.length = 65535 := List.length_replicate
  have added : crowded.extra.length = 65535 := List.length_replicate
  obtain ⟨bytes, wrote⟩ := (fits crowded).mpr ⟨latin, Nat.le_of_eq named, Nat.le_of_eq added⟩
  obtain ⟨read, _⟩ := reads crowded bytes wrote
  refine ⟨bytes, wrote, ?_, fun codes => ?_, read⟩
  · obtain ⟨written, described, rfl⟩ := found_encode.mp wrote
    rw [List.length_cons, List.length_cons, NodeDescription.length_encode described, NodeDescription.wireLength, named,
      added]
  · cases codes.nodeType 77 rfl

end PortMapper.NodeInfo
