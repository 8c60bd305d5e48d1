import PortMapper.Text.Latin1

/-!
# One-word replies

Kill and stop requests are answered by a single word, with nothing around it.
-/

namespace PortMapper

/-- The answer to a kill request. -/
inductive KillReply
  | ok
  | notOk
  deriving DecidableEq, Repr

namespace KillReply

def word : KillReply → String
  | ok => "OK"
  | notOk => "NOK"

def encode (reply : KillReply) : Bytes :=
  reply.word.toList.map fun c => UInt8.ofNat c.toNat

def decode (bytes : Bytes) : Except WireError KillReply :=
  if bytes = ok.encode then .ok ok
  else if bytes = notOk.encode then .ok notOk
  else .error (.unknownStatus "kill" (Text.Latin1.decode bytes))

theorem decode_encode (reply : KillReply) : decode reply.encode = .ok reply := by
  cases reply <;> rfl

/-- A word is read from its own bytes and from nothing else. -/
theorem decode_ok {bytes : Bytes} {reply : KillReply} : decode bytes = .ok reply ↔ bytes = reply.encode := by
  constructor
  · intro decoded
    grind [decode]
  · rintro rfl
    exact decode_encode reply

end KillReply

/-- The answer to a stop request. -/
inductive StopReply
  | stopped
  | notThere
  deriving DecidableEq, Repr

namespace StopReply

def word : StopReply → String
  | stopped => "STOPPED"
  | notThere => "NOEXIST"

def encode (reply : StopReply) : Bytes :=
  reply.word.toList.map fun c => UInt8.ofNat c.toNat

def decode (bytes : Bytes) : Except WireError StopReply :=
  if bytes = stopped.encode then .ok stopped
  else if bytes = notThere.encode then .ok notThere
  else .error (.unknownStatus "stop" (Text.Latin1.decode bytes))

theorem decode_encode (reply : StopReply) : decode reply.encode = .ok reply := by
  cases reply <;> rfl

/-- A word is read from its own bytes and from nothing else. -/
theorem decode_ok {bytes : Bytes} {reply : StopReply} : decode bytes = .ok reply ↔ bytes = reply.encode := by
  constructor
  · intro decoded
    grind [decode]
  · rintro rfl
    exact decode_encode reply

end StopReply

end PortMapper
