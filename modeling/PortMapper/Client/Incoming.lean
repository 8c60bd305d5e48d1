import PortMapper.Frame.Stream

/-!
# What arrives at a client

A reply arrives in chunks, and after them the daemon closes its side or keeps the connection open. A client that knows
how many bytes are enough reads until they are there or the daemon has closed; otherwise it reads until the daemon has
closed. If neither comes, the time for the call runs out.
-/

namespace PortMapper

/-- What a daemon sends on a connection while the time for the call runs. -/
structure Incoming where
  stream : Stream
  /-- Whether the daemon closes its side after the last chunk. -/
  closes : Bool
  /-- A read without bytes is the end of a stream, so no chunk is without them. -/
  flows : ∀ chunk ∈ stream, chunk ≠ .data []
  deriving DecidableEq, Repr

namespace Incoming

/-- Bytes that come at once. -/
def ofBytes (bytes : Bytes) (closes : Bool) : Incoming where
  stream := if bytes = [] then [] else [.data bytes]
  closes
  flows chunk member := by
    split at member
    · cases member
    · next brings =>
      rw [List.mem_singleton.mp member]
      exact fun empty => brings (Chunk.data.inj empty)

/-- Reads until `limit` bytes have come or the daemon closes: these bytes, or why reading failed. Nothing comes of it if
the daemon neither closes nor sends enough. -/
def readUpTo (incoming : Incoming) (limit : Nat) : Option (Except String Bytes) :=
  match (incoming.stream.fill limit).1 with
  | .ok bytes => if incoming.closes ∨ limit ≤ bytes.length then some (.ok bytes) else none
  | .error cause => some (.error cause)

/-- Reads until the daemon closes: all bytes, or why reading failed. Nothing comes of it if the daemon does not
close. -/
def readToEnd (incoming : Incoming) : Option (Except String Bytes) :=
  match incoming.stream.drain with
  | .ok bytes => if incoming.closes then some (.ok bytes) else none
  | .error cause => some (.error cause)

/-- Reads as many bytes as are enough, or all if no number of them is. -/
def read (incoming : Incoming) : Option Nat → Option (Except String Bytes)
  | some limit => incoming.readUpTo limit
  | none => incoming.readToEnd

end Incoming

end PortMapper
