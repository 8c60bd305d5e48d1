import PortMapper.Request

/-!
# Frames on a stream

Bytes arrive on a connection in chunks. Reading a frame asks for exactly the bytes that it still
needs: first the two bytes of the length, then as many as it declares. Whoever does not know how many
bytes there are reads until the stream ends. A read gives at most one chunk; one that gives no bytes
means the end of the stream to whoever reads then.
-/

namespace PortMapper

/-- What one step of a connection brings. -/
inductive Chunk
  /-- Bytes that are there. -/
  | data (bytes : Bytes)
  /-- Nothing yet. -/
  | pending
  /-- The connection fails. -/
  | failure (cause : String)
  deriving DecidableEq, Repr

/-- What will arrive on a connection; after the last chunk the stream has ended. -/
abbrev Stream := List Chunk

namespace Stream

/-- The bytes that have not been read. -/
def unread (stream : Stream) : Bytes :=
  stream.flatMap fun
    | .data bytes => bytes
    | _ => []

/-- Reads until `count` bytes have come or the stream ends: these bytes, or why reading failed,
and what is left. -/
def fill : Nat → Stream → Except String Bytes × Stream
  | 0, stream => (.ok [], stream)
  | _ + 1, [] => (.ok [], [])
  | count + 1, .pending :: rest => fill (count + 1) rest
  | _ + 1, .failure cause :: rest => (.error cause, rest)
  | count + 1, .data bytes :: rest =>
    -- A read without bytes is the end of the stream to whoever reads now.
    if bytes.isEmpty then (.ok [], rest)
    else if bytes.length ≤ count + 1 then
      let (more, left) := fill (count + 1 - bytes.length) rest
      (more.map (bytes ++ ·), left)
    -- The chunk holds more than is asked for, and the rest of it stays.
    else (.ok (bytes.take (count + 1)), .data (bytes.drop (count + 1)) :: rest)

/-- Reads until the stream ends: all bytes, or why reading failed. -/
def drain : Stream → Except String Bytes
  | [] => .ok []
  | .pending :: rest => drain rest
  | .failure cause :: _ => .error cause
  | .data bytes :: rest => if bytes.isEmpty then .ok [] else (drain rest).map (bytes ++ ·)

end Stream

/-- Why no frame could be read from a stream. -/
inductive FrameError
  /-- The stream ended before a frame began. -/
  | closed
  /-- The connection failed. -/
  | broken (cause : String)
  /-- The stream ended inside a frame. -/
  | wire (error : WireError)
  deriving DecidableEq, Repr

def FrameError.message : FrameError → String
  | .closed => "connection closed"
  | .broken cause => s!"i/o error: {cause}"
  | .wire error => error.message

namespace Frame

/-- Reads the body of a frame with the given length field. -/
def readBody (lengthField : Bytes) (declared : Nat) (stream : Stream) :
    Except FrameError Bytes × Stream :=
  match stream.fill declared with
  | (.error cause, left) => (.error (.broken cause), left)
  | (.ok body, left) =>
    if body.length < declared then
      (.error (.wire (.lengthMismatch declared body.length)), left)
    else (.ok (lengthField ++ body), left)

/-- Reads one frame, with its length, and leaves what follows it. -/
def readFrom (stream : Stream) : Except FrameError Bytes × Stream :=
  match stream.fill prefixLength with
  | (.error cause, left) => (.error (.broken cause), left)
  | (.ok [], left) => (.error .closed, left)
  | (.ok [high, low], left) => readBody [high, low] (BigEndian.toUInt16 high low).toNat left
  | (.ok short, left) =>
    (.error (.wire (.truncatedField "length" prefixLength short.length)), left)

/-- Reads frames until one cannot be read or `count` were: the frames, the failure that ended
reading, and what is left. -/
def readMany : Nat → Stream → List Bytes × Option FrameError × Stream
  | 0, stream => ([], none, stream)
  | count + 1, stream =>
    match readFrom stream with
    | (.error error, left) => ([], some error, left)
    | (.ok frame, left) =>
      let (frames, error, left) := readMany count left
      (frame :: frames, error, left)

end Frame

end PortMapper
