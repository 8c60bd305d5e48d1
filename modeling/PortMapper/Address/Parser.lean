import PortMapper.Address.Basic
import PortMapper.Text.Blank
import PortMapper.Text.Decimal
import PortMapper.Text.Lines

/-!
# Reading addresses

An IPv4 address is four numbers below 256 with points, of at most three digits and with no zero in
front. An IPv6 address is eight groups of one to four digits in base sixteen with colons; its last two
groups may be an IPv4 address, and one run of groups may be left out between two colons. In a socket
address the port follows a colon; an IPv6 address stands in brackets there, maybe with the number of its
zone behind a percent sign.
-/

namespace PortMapper

namespace IpAddress

/-- A number of at most `most` digits from the front of a text. -/
def readNumber (base most : Nat) (text : Text) : Option (Text × Text) :=
  let digits := text.takeWhile (Text.isDigit base)
  if digits.isEmpty ∨ digits.length > most then none
  else some (digits, text.dropWhile (Text.isDigit base))

/-- One of the four numbers of an IPv4 address. -/
def readOctet (text : Text) : Option (Nat × Text) := do
  let (digits, rest) ← readNumber 10 3 text
  let value := Text.numberOf 10 digits
  if (digits.head? = some '0' ∧ digits.length > 1) ∨ value > 255 then none
  else some (value, rest)

/-- A character that must come next. -/
def readMark (mark : Char) : Text → Option Text
  | c :: rest => if c = mark then some rest else none
  | [] => none

/-- An IPv4 address from the front of a text. -/
def readDotted (text : Text) : Option (BitVec 32 × Text) := do
  let (a, rest) ← readOctet text
  let (b, rest) ← readOctet (← readMark '.' rest)
  let (c, rest) ← readOctet (← readMark '.' rest)
  let (d, rest) ← readOctet (← readMark '.' rest)
  return (BitVec.ofNat 32 (a * 16777216 + b * 65536 + c * 256 + d), rest)

/-- What follows the colon that stands in front of every group but the first. -/
def readColon (first : Bool) (text : Text) : Option Text :=
  if first then some text else readMark ':' text

/-- Groups from the front of a text, at most as many as there is room for: their values, whether
the last two came from an IPv4 address, and the rest. -/
def readGroups : (room : Nat) → (first : Bool) → Text → List Nat × Bool × Text
  | 0, _, text => ([], false, text)
  | room + 1, first, text =>
    -- An IPv4 address takes the place of two groups, so there must be room for both.
    match if room = 0 then none else (readColon first text).bind readDotted with
    | some (bits, rest) => ([bits.toNat / 65536, bits.toNat % 65536], true, rest)
    | none =>
      match (readColon first text).bind (readNumber 16 4) with
      | some (digits, rest) =>
        let (groups, dotted, left) := readGroups room false rest
        (Text.numberOf 16 digits :: groups, dotted, left)
      | none => ([], false, text)

/-- The bits of eight groups. -/
def ofGroups (groups : List Nat) : BitVec 128 :=
  BitVec.ofNat 128 (groups.foldl (fun value group => value * 65536 + group) 0)

/-- An IPv6 address from the front of a text. -/
def readColons (text : Text) : Option (BitVec 128 × Text) :=
  let (head, dotted, rest) := readGroups 8 true text
  if head.length = 8 then some (ofGroups head, rest)
  else if dotted then none
  else do
    let rest ← readMark ':' (← readMark ':' rest)
    -- At least one group was left out, so the tail has room for one less than is missing.
    let (tail, _, left) := readGroups (7 - head.length) true rest
    let zeros := List.replicate (8 - head.length - tail.length) 0
    return (ofGroups (head ++ zeros ++ tail), left)

def ofText? (text : Text) : Option IpAddress :=
  match readDotted text with
  | some (bits, rest) => if rest.isEmpty then some (v4 bits) else none
  | none =>
    match readColons text with
    | some (bits, rest) => if rest.isEmpty then some (v6 bits) else none
    | none => none

/-- Why a text is no address. -/
def syntaxMessage : String := "invalid IP address syntax"

/-- The addresses of a list with commas. Blanks around an address and empty places do not count;
one place that is no address spoils the list. -/
def listOfText? (text : Text) : Option (List IpAddress) :=
  (((Text.parts ',' text).map Text.trim).filter (!·.isEmpty)).mapM ofText?

example : ofText? "127.0.0.1".toList = some loopback := by decide

example : ofText? "::1".toList = some loopback6 := by decide

example : ofText? "010.0.0.1".toList = none := by decide

end IpAddress

namespace SocketAddress

/-- A number of at most `limit` behind a mark, from the front of a text. -/
def readBehind (mark : Char) (limit : Nat) (text : Text) : Option (Nat × Text) := do
  let rest ← IpAddress.readMark mark text
  let digits := rest.takeWhile (Text.isDigit 10)
  let value := Text.numberOf 10 digits
  if digits.isEmpty ∨ value > limit then none
  else some (value, rest.dropWhile (Text.isDigit 10))

/-- A host with a port, at the end of a text. -/
def withPort (ip : IpAddress) (zone : Nat) (text : Text) : Option SocketAddress := do
  let (port, rest) ← readBehind ':' 65535 text
  if rest.isEmpty then some ⟨ip, UInt16.ofNat port, UInt32.ofNat zone⟩ else none

def ofText? (text : Text) : Option SocketAddress :=
  match text with
  | '[' :: inner => do
    let (bits, rest) ← IpAddress.readColons inner
    let (zone, rest) := (readBehind '%' 4294967295 rest).getD (0, rest)
    withPort (.v6 bits) zone (← IpAddress.readMark ']' rest)
  | _ => do
    let (bits, rest) ← IpAddress.readDotted text
    withPort (.v4 bits) 0 rest

example : ofText? "[::1%3]:0080".toList = some ⟨.loopback6, 80, 3⟩ := by decide

example : ofText? "127.0.0.1:+80".toList = none := by decide

end SocketAddress

end PortMapper
