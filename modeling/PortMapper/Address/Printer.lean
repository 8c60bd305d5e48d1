import PortMapper.Address.Basic
import PortMapper.Text.Decimal

/-!
# Writing addresses

An IPv4 address is four numbers with points. An IPv6 address is eight groups in base sixteen with
colons, the first of the longest runs of two or more zero groups being left out; the mapped form of
an IPv4 address shows that address. In front of a port an IPv6 address stands in brackets, with its zone
behind a percent sign unless that is zero.
-/

namespace PortMapper

namespace IpAddress

/-- Four numbers with points. -/
def dotted (bits : BitVec 32) : Text :=
  ['.'].intercalate ((octets bits).map Text.Decimal.write)

/-- Groups in base sixteen with colons. -/
def colons (groups : List Nat) : Text :=
  [':'].intercalate (groups.map Text.hex)

/-- How many of the groups from a place on are zero before one is not. -/
def zerosAt (groups : List Nat) (start : Nat) : Nat :=
  ((groups.drop start).takeWhile (· = 0)).length

/-- Where the first of the longest runs of zero groups starts, and how long it is. -/
def zeroRun (groups : List Nat) : Nat × Nat :=
  (List.range groups.length).foldl
    (fun best start => if zerosAt groups start > best.2 then (start, zerosAt groups start) else best)
    (0, 0)

def text : IpAddress → Text
  | v4 bits => dotted bits
  | v6 bits =>
    match mapped? bits with
    | some inner => "::ffff:".toList ++ dotted inner
    | none =>
      let groups := groups bits
      let (start, length) := zeroRun groups
      if length ≤ 1 then colons groups
      else colons (groups.take start) ++ "::".toList ++ colons (groups.drop (start + length))

example : text loopback6 = "::1".toList := by decide

example : text (v6 0x20010db8000000000001000000000001) = "2001:db8::1:0:0:1".toList := by decide

end IpAddress

namespace SocketAddress

/-- The zone of a socket address as it stands behind an IPv6 address. -/
def zoneText (address : SocketAddress) : Text :=
  if address.zone = 0 then [] else '%' :: Text.Decimal.write address.zone.toNat

def text (address : SocketAddress) : Text :=
  match address.ip with
  | .v4 _ => address.ip.text ++ ':' :: Text.Decimal.write address.port.toNat
  | .v6 _ =>
    '[' :: address.ip.text ++ address.zoneText ++ "]:".toList ++
      Text.Decimal.write address.port.toNat

example : text ⟨.v6 0xfe800000000000000000000000000001, 40, 7⟩ = "[fe80::1%7]:40".toList := by decide

end SocketAddress

end PortMapper
