import PortMapper.Reader

/-!
# Registration replies

Four bytes: the tag, a status that is zero for yes, and the creation number. A refusal may end after
its status.
-/

namespace PortMapper

/-- The answer to a registration. -/
structure RegistrationReply where
  accepted : Bool
  /-- The creation number; a refusal by this port mapper carries zero. -/
  creation : UInt16
  deriving DecidableEq, Repr

namespace RegistrationReply

/-- How many bytes a registration reply takes. -/
def wireLength : Nat := 4

/-- The reply that accepts a registration. -/
def accept (creation : UInt16) : RegistrationReply :=
  ⟨true, creation⟩

/-- The reply that refuses a registration. -/
def refuse : RegistrationReply :=
  ⟨false, 0⟩

def encode (reply : RegistrationReply) : Bytes :=
  Tag.alive2Response.toByte :: (if reply.accepted then 0 else 1) ::
    BigEndian.ofUInt16 reply.creation

/-- Reads a reply that fills what is left. -/
def reader : Reader RegistrationReply := do
  Reader.tag .alive2Response
  let status ← Reader.u8 "status"
  if status ≠ 0 ∧ (← Reader.remaining) = 0 then return refuse
  let creation ← Reader.u16 "creation"
  Reader.finish wireLength
  return ⟨status = 0, creation⟩

def decode (bytes : Bytes) : Except WireError RegistrationReply :=
  reader.read bytes

theorem decode_encode (reply : RegistrationReply) : decode reply.encode = .ok reply := by
  obtain ⟨accepted, creation⟩ := reply
  cases accepted <;>
    simp [decode, encode, reader, Reader.read, Reader.run, Reader.tag, Reader.u8, Reader.u16,
      Reader.remaining, Reader.finish, Tag.toByte, Tag.ofByte, BigEndian.ofUInt16,
      BigEndian.toUInt16_ofUInt16, bind, pure]

end RegistrationReply

end PortMapper
