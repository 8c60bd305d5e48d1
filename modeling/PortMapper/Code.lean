import PortMapper.Bytes

/-!
# Codes

The numbers that name things on the wire: the tag of a message, the type of a node, its protocol,
and the distribution versions it speaks. A number without a name is kept as it is, so reading a
code never fails and writing it gives back the number that was read (`toByte_ofByte`,
`toWord_ofWord`).
-/

namespace PortMapper

/-! ## Tags -/

/-- The first byte of a message, which says what the message is. -/
inductive Tag
  | alive2Request
  | alive2Response
  | portPlease2Request
  | port2Response
  | namesRequest
  | dumpRequest
  | killRequest
  | stopRequest
  | unknown (byte : UInt8)
  deriving DecidableEq, Repr

namespace Tag

def ofByte : UInt8 → Tag
  | 120 => alive2Request
  | 121 => alive2Response
  | 122 => portPlease2Request
  | 119 => port2Response
  | 110 => namesRequest
  | 100 => dumpRequest
  | 107 => killRequest
  | 115 => stopRequest
  | byte => unknown byte

def toByte : Tag → UInt8
  | alive2Request => 120
  | alive2Response => 121
  | portPlease2Request => 122
  | port2Response => 119
  | namesRequest => 110
  | dumpRequest => 100
  | killRequest => 107
  | stopRequest => 115
  | unknown byte => byte

/-- The name of a tag in messages. -/
def label : Tag → String
  | alive2Request => "ALIVE2_REQUEST"
  | alive2Response => "ALIVE2_RESPONSE"
  | portPlease2Request => "PORT_PLEASE2_REQUEST"
  | port2Response => "PORT2_RESPONSE"
  | namesRequest => "NAMES_REQUEST"
  | dumpRequest => "DUMP_REQUEST"
  | killRequest => "KILL_REQUEST"
  | stopRequest => "STOP_REQUEST"
  | unknown _ => "UNKNOWN"

/-- A tag in messages: its name and its byte. -/
def describe (tag : Tag) : String :=
  s!"{tag.label}({tag.toByte})"

theorem toByte_ofByte (byte : UInt8) : (ofByte byte).toByte = byte := by
  unfold ofByte
  split <;> rfl

end Tag

/-! ## Node types -/

/-- What kind of node registers. -/
inductive NodeType
  | r3Hidden
  | r3Erlang
  | r4Hidden
  | r4Erlang
  | r6Erlang
  | unknown (byte : UInt8)
  deriving DecidableEq, Repr

namespace NodeType

def ofByte : UInt8 → NodeType
  | 72 => r3Hidden
  | 77 => r3Erlang
  | 104 => r4Hidden
  | 109 => r4Erlang
  | 110 => r6Erlang
  | byte => unknown byte

def toByte : NodeType → UInt8
  | r3Hidden => 72
  | r3Erlang => 77
  | r4Hidden => 104
  | r4Erlang => 109
  | r6Erlang => 110
  | unknown byte => byte

theorem toByte_ofByte (byte : UInt8) : (ofByte byte).toByte = byte := by
  unfold ofByte
  split <;> rfl

end NodeType

/-! ## Protocols -/

/-- The transport that a node's distribution runs over. -/
inductive Protocol
  | tcp
  | udp
  | sctp
  | unknown (byte : UInt8)
  deriving DecidableEq, Repr

namespace Protocol

def ofByte : UInt8 → Protocol
  | 0 => tcp
  | 1 => udp
  | 2 => sctp
  | byte => unknown byte

def toByte : Protocol → UInt8
  | tcp => 0
  | udp => 1
  | sctp => 2
  | unknown byte => byte

theorem toByte_ofByte (byte : UInt8) : (ofByte byte).toByte = byte := by
  unfold ofByte
  split <;> rfl

end Protocol

/-! ## Distribution versions -/

/-- A version of the distribution protocol. A node announces the highest and the lowest it speaks;
nothing asks that the lowest be the lower one. -/
inductive Version
  | r3
  | r4
  | r5c
  | r5
  | r6
  | unknown (word : UInt16)
  deriving DecidableEq, Repr

namespace Version

def ofWord : UInt16 → Version
  | 0 => r3
  | 1 => r4
  | 2 => r5c
  | 3 => r5
  | 5 => r6
  | word => unknown word

def toWord : Version → UInt16
  | r3 => 0
  | r4 => 1
  | r5c => 2
  | r5 => 3
  | r6 => 5
  | unknown word => word

theorem toWord_ofWord (word : UInt16) : (ofWord word).toWord = word := by
  unfold ofWord
  split <;> rfl

end Version

end PortMapper
