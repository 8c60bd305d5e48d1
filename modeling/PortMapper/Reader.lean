import PortMapper.WireError

/-!
# Reading fields

A reader takes fields from the front of some bytes, in order. A field that is not there in full is a
failure that names the field and takes nothing, with one exception: a short field whose length was
read but whose content is too short has taken the two bytes of its length. What a reader leaves is
known also after a failure, so reading can go on.

* Reading loses nothing and invents nothing: `bytes_append`, `u8_cons`, `u16_append`, `u32_append`.
* A short field that was written reads back: `short_field`.
-/

namespace PortMapper

/-- Takes a value from the front of some bytes, and gives the bytes that are left. -/
def Reader (α : Type) :=
  Bytes → Except WireError α × Bytes

namespace Reader

/-- The result of a reader on some bytes, and the bytes that it leaves. -/
def run {α : Type} (reader : Reader α) (bytes : Bytes) : Except WireError α × Bytes :=
  reader bytes

/-- The result of a reader on some bytes, whatever it leaves. -/
def read {α : Type} (reader : Reader α) (bytes : Bytes) : Except WireError α :=
  (reader.run bytes).1

instance : Monad Reader where
  pure value := fun left => (.ok value, left)
  bind reader next := fun left =>
    match reader left with
    | (.ok value, rest) => next value rest
    | (.error error, rest) => (.error error, rest)

/-- Stops with a failure and takes nothing. -/
def fail {α : Type} (error : WireError) : Reader α :=
  fun left => (.error error, left)

def u8 (field : String) : Reader UInt8
  | byte :: rest => (.ok byte, rest)
  | [] => (.error (.truncatedField field 1 0), [])

def u16 (field : String) : Reader UInt16
  | high :: low :: rest => (.ok (BigEndian.toUInt16 high low), rest)
  | left => (.error (.truncatedField field 2 left.length), left)

def u32 (field : String) : Reader UInt32
  | a :: b :: c :: d :: rest => (.ok (BigEndian.toUInt32 a b c d), rest)
  | left => (.error (.truncatedField field 4 left.length), left)

/-- The next `count` bytes. -/
def bytes (field : String) (count : Nat) : Reader Bytes := fun left =>
  if left.length < count then (.error (.truncatedField field count left.length), left)
  else (.ok (left.take count), left.drop count)

/-- A short field: two bytes that say how many bytes follow, and these. -/
def short (field : String) : Reader Bytes := do
  let count ← u16 field
  bytes field count.toNat

/-- All that is left. -/
def rest : Reader Bytes := fun left =>
  (.ok left, [])

def remaining : Reader Nat := fun left =>
  (.ok left.length, left)

/-- Reads a tag that must be the given one. -/
def tag (expected : Tag) : Reader Unit := do
  let found := Tag.ofByte (← u8 "tag")
  if found = expected then return () else fail (.unexpectedTag expected found)

/-- Fails if any bytes are left; `consumed` is how many the message accounts for. -/
def finish (consumed : Nat) : Reader Unit := fun left =>
  if left.isEmpty then (.ok (), left)
  else (.error (.lengthMismatch consumed (consumed + left.length)), left)

@[simp] theorem run_pure {α : Type} (value : α) (left : Bytes) :
    (pure value : Reader α).run left = (.ok value, left) := rfl

theorem run_bind {α β : Type} (reader : Reader α) (next : α → Reader β) (left : Bytes) :
    (reader >>= next).run left =
      match reader.run left with
      | (.ok value, rest) => (next value).run rest
      | (.error error, rest) => (.error error, rest) := rfl

theorem u8_cons (field : String) (byte : UInt8) (rest : Bytes) :
    (u8 field).run (byte :: rest) = (.ok byte, rest) := rfl

theorem u16_append (field : String) (n : UInt16) (rest : Bytes) :
    (u16 field).run (BigEndian.ofUInt16 n ++ rest) = (.ok n, rest) := by
  simp only [run, BigEndian.ofUInt16, List.cons_append, List.nil_append, u16,
    BigEndian.toUInt16_ofUInt16]

theorem u32_append (field : String) (n : UInt32) (rest : Bytes) :
    (u32 field).run (BigEndian.ofUInt32 n ++ rest) = (.ok n, rest) := by
  simp only [run, BigEndian.ofUInt32, List.cons_append, List.nil_append, u32,
    BigEndian.toUInt32_ofUInt32]

theorem bytes_append (field : String) (content rest : Bytes) :
    (bytes field content.length).run (content ++ rest) = (.ok content, rest) := by
  simp [run, bytes]

end Reader

/-! ## Writing a short field -/

/-- The longest field that a two-byte length can announce. -/
def maxShortField : Nat := 65535

/-- A short field: the length of `content` in two bytes, and `content`. -/
def shortField (field : String) (content : Bytes) : Except WireError Bytes :=
  if content.length > maxShortField then
    .error (.fieldTooLong field content.length maxShortField)
  else .ok (BigEndian.ofUInt16 (UInt16.ofNat content.length) ++ content)

/-- A short field that was written reads back, whatever follows it. -/
theorem Reader.short_field {field : String} {content written : Bytes} (rest : Bytes)
    (h : shortField field content = .ok written) :
    (Reader.short field).run (written ++ rest) = (.ok content, rest) := by
  unfold shortField at h
  split at h
  · cases h
  · next fits =>
    cases h
    have size : (UInt16.ofNat content.length).toNat = content.length := by
      rw [UInt16.toNat_ofNat', Nat.mod_eq_of_lt]
      simp only [maxShortField] at fits
      omega
    rw [Reader.short, Reader.run_bind, List.append_assoc, Reader.u16_append]
    simp only [size, Reader.bytes_append]

end PortMapper
