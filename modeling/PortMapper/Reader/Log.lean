import PortMapper.Reader

/-!
# Reads one after another

A buffer is read from its front by one read after another. Each read goes on with what the one before it left, also
if that one failed. The log says for each read what it gave, which bytes it consumed and which it left.
-/

namespace PortMapper

/-- A read of what comes next, for the field that it is to find there. -/
inductive Read
  | u8 (field : String)
  | u16 (field : String)
  | u32 (field : String)
  | bytes (field : String) (count : Nat)
  | short (field : String)
  | rest
  deriving DecidableEq, Repr

namespace Read

/-- What a read gives if it succeeds. -/
abbrev Value : Read → Type
  | u8 _ => UInt8
  | u16 _ => UInt16
  | u32 _ => UInt32
  | bytes _ _ | short _ | rest => Bytes

def reader : (read : Read) → Reader read.Value
  | u8 field => Reader.u8 field
  | u16 field => Reader.u16 field
  | u32 field => Reader.u32 field
  | bytes field count => Reader.bytes field count
  | short field => Reader.short field
  | rest => Reader.rest

/-- A read that was made. -/
structure Entry where
  read : Read
  result : Except WireError read.Value
  /-- The bytes in front that the read took away. -/
  consumed : Bytes
  /-- What the next read goes on with. -/
  left : Bytes

/-- What a read makes of the bytes that are given to it. -/
def entry (read : Read) (given : Bytes) : Entry :=
  let (result, left) := read.reader.run given
  -- A read does not say what it consumed: that is what is no longer there.
  { read, result, consumed := given.take (given.length - left.length), left }

/-- What the reads make of a buffer, one after another. -/
def log : List Read → Bytes → List Entry
  | [], _ => []
  | read :: reads, given => read.entry given :: log reads (read.entry given).left

/-- What the reads leave of a buffer. -/
def remaining (reads : List Read) (buffer : Bytes) : Bytes :=
  reads.foldl (fun given read => (read.reader.run given).2) buffer

/-- The bytes that were consumed by some reads, in order. -/
def consumed (entries : List Entry) : Bytes :=
  entries.flatMap (·.consumed)

@[simp] theorem log_nil (buffer : Bytes) : log [] buffer = [] := rfl

@[simp] theorem log_cons (read : Read) (reads : List Read) (buffer : Bytes) :
    log (read :: reads) buffer = read.entry buffer :: log reads (read.entry buffer).left := rfl

@[simp] theorem remaining_nil (buffer : Bytes) : remaining [] buffer = buffer := rfl

@[simp] theorem remaining_cons (read : Read) (reads : List Read) (buffer : Bytes) :
    remaining (read :: reads) buffer = remaining reads (read.entry buffer).left := rfl

@[simp] theorem consumed_nil : consumed [] = [] := rfl

@[simp] theorem consumed_cons (entry : Entry) (entries : List Entry) :
    consumed (entry :: entries) = entry.consumed ++ consumed entries := rfl

/-- Each read is made, whatever became of the ones before it. -/
theorem map_read_log (reads : List Read) (buffer : Bytes) : (log reads buffer).map (·.read) = reads := by
  induction reads generalizing buffer with
  | nil => rfl
  | cons read reads ih =>
    rw [log_cons, List.map_cons, ih]
    rfl

end Read

end PortMapper
