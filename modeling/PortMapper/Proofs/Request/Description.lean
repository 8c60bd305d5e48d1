import PortMapper.NodeDescription
import PortMapper.Proofs.Reader

/-!
# Reading a description

A description that was written reads back with each code under its name, whatever follows (`reader_encode`),
and bytes that read as a description are the writing of it (`reader_ok`).
-/

namespace PortMapper.NodeDescription

variable {node : NodeDescription} {written left rest : Bytes}

theorem encode_ok :
    node.encode = .ok written ↔
      ∃ name nameField extraField, Text.Latin1.encode "name" node.name = .ok name ∧
        shortField "name" name = .ok nameField ∧ shortField "extra" node.extra = .ok extraField ∧
        written = BigEndian.ofUInt16 node.port ++ node.nodeType.toByte :: node.protocol.toByte ::
          (BigEndian.ofUInt16 node.highest.toWord ++ BigEndian.ofUInt16 node.lowest.toWord ++
            nameField ++ extraField) := by
  simp only [encode, bind_eq_ok, pure, Except.pure, Except.ok.injEq]
  constructor
  · rintro ⟨name, latin, nameField, named, extraField, added, rfl⟩
    exact ⟨name, nameField, extraField, latin, named, added, rfl⟩
  · rintro ⟨name, nameField, extraField, latin, named, added, rfl⟩
    exact ⟨name, latin, nameField, named, extraField, added, rfl⟩

/-- What was written reads back with each code under its name. -/
theorem reader_encode (wrote : node.encode = .ok written) (rest : Bytes) :
    reader.run (written ++ rest) = (.ok node.normalise, rest) := by
  obtain ⟨name, nameField, extraField, latin, named, added, rfl⟩ := encode_ok.mp wrote
  simp only [List.append_assoc, List.cons_append]
  simp only [reader, Reader.run_bind, Reader.u16_append, Reader.u8_cons, Reader.short_field _ named,
    Reader.short_field _ added, Reader.run_pure, Text.Latin1.decode_encode latin]
  rfl

@[simp] theorem normalise_normalise (node : NodeDescription) :
    node.normalise.normalise = node.normalise := by
  simp only [normalise, NodeType.toByte_ofByte, Protocol.toByte_ofByte, Version.toWord_ofWord]

theorem encode_normalise (node : NodeDescription) : node.normalise.encode = node.encode := by
  simp only [encode, normalise, NodeType.toByte_ofByte, Protocol.toByte_ofByte, Version.toWord_ofWord]

/-- A description is read exactly from its writing, if each code in it is under its name. -/
theorem reader_ok :
    reader.run left = (.ok node, rest) ↔
      ∃ written, node.encode = .ok written ∧ left = written ++ rest ∧ node.normalise = node := by
  constructor
  · intro read
    simp only [reader, Reader.bind_ok, Reader.u16_ok, Reader.u8_ok, Reader.short_ok,
      Reader.pure_ok] at read
    obtain ⟨port, _, rfl, nodeType, _, rfl, protocol, _, rfl, highest, _, rfl, lowest, _, rfl,
      name, _, ⟨nameField, named, rfl⟩, extra, _, ⟨extraField, added, rfl⟩, rfl, rfl⟩ := read
    refine ⟨_, encode_ok.mpr ⟨name, nameField, extraField, ?_, named, added, rfl⟩, ?_, ?_⟩
    · exact Text.Latin1.encode_decode "name" name
    · simp only [NodeType.toByte_ofByte, Protocol.toByte_ofByte, Version.toWord_ofWord,
        List.append_assoc, List.cons_append]
    · simp only [normalise, NodeType.toByte_ofByte, Protocol.toByte_ofByte, Version.toWord_ofWord]
  · rintro ⟨written, wrote, rfl, named⟩
    rw [reader_encode wrote, named]

theorem untagged_reader : reader.Untagged := by
  unfold reader
  exact Reader.untagged_bind Reader.untagged_u16 fun _ =>
    Reader.untagged_bind Reader.untagged_u8 fun _ =>
    Reader.untagged_bind Reader.untagged_u8 fun _ =>
    Reader.untagged_bind Reader.untagged_u16 fun _ =>
    Reader.untagged_bind Reader.untagged_u16 fun _ =>
    Reader.untagged_bind Reader.untagged_short fun _ =>
    Reader.untagged_bind Reader.untagged_short fun _ => Reader.untagged_pure _

end PortMapper.NodeDescription
