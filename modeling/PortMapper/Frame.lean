import PortMapper.Reader

/-!
# Request frames

A request travels in a frame: two bytes that say how many bytes follow, the tag, and a body that fills
the rest.
-/

namespace PortMapper.Frame

/-- How many bytes the length of a frame takes. -/
def prefixLength : Nat := 2

/-- The frame of a tag and a body. -/
def write (tag : Tag) (body : Bytes) : Except WireError Bytes :=
  let length := body.length + 1
  if length > maxShortField then .error (.fieldTooLong "request" length maxShortField)
  else .ok (BigEndian.ofUInt16 (UInt16.ofNat length) ++ tag.toByte :: body)

/-- Reads the tag and the body of a frame, whose declared length must be what follows exactly. -/
def reader : Reader (Tag × Bytes) := do
  let declared ← Reader.u16 "length"
  let available ← Reader.remaining
  if declared.toNat ≠ available then
    Reader.fail (.lengthMismatch declared.toNat available)
  else
    let tag ← Reader.u8 "tag"
    let body ← Reader.rest
    return (Tag.ofByte tag, body)

/-- The tag and the body of a frame. -/
def split (frame : Bytes) : Except WireError (Tag × Bytes) :=
  reader.read frame

end PortMapper.Frame
