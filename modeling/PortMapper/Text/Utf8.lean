import PortMapper.Bytes

/-!
# UTF-8

Text in files is UTF-8. Bytes that are no well-formed UTF-8 are no text; a text that was encoded is
decoded to itself (`decode?_encode`).
-/

namespace PortMapper.Text.Utf8

def encode (text : Text) : Bytes :=
  (String.ofList text).toByteArray.data.toList

def decode? (bytes : Bytes) : Option Text :=
  (String.fromUTF8? ⟨bytes.toArray⟩).map String.toList

theorem decode?_encode (text : Text) : decode? (encode text) = some text := by
  have same : (⟨(encode text).toArray⟩ : ByteArray) = (String.ofList text).toByteArray := by
    simp [encode]
  rw [decode?, same, String.fromUTF8?, dif_pos (String.ofList text).isValidUTF8, Option.map_some]
  exact congrArg some (String.toList_ofList)

end PortMapper.Text.Utf8
