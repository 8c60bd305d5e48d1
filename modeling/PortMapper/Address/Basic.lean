import PortMapper.Bytes

/-!
# Addresses

Internet addresses of both families, and the sockets that they and a port name. An IPv4 address also
has a mapped form among the IPv6 addresses. The canonical form undoes the mapping, so two addresses
are the same host when their canonical forms are equal (`canonical_mapped`).
-/

namespace PortMapper

/-- An internet address as its bits. -/
inductive IpAddress
  | v4 (bits : BitVec 32)
  | v6 (bits : BitVec 128)
  deriving DecidableEq, Repr

namespace IpAddress

/-- The address that stands for every IPv4 address, 0.0.0.0. -/
def unspecified : IpAddress := v4 0

/-- The host itself, 127.0.0.1. -/
def loopback : IpAddress := v4 0x7f000001

/-- The host itself, ::1. -/
def loopback6 : IpAddress := v6 1

/-- Whether the address is 0.0.0.0 or ::, as it is written. -/
def isUnspecified : IpAddress → Bool
  | v4 bits => bits = 0
  | v6 bits => bits = 0

/-- The IPv4 address that an IPv6 address maps. -/
def mapped? (bits : BitVec 128) : Option (BitVec 32) :=
  if bits.toNat / 4294967296 = 0xffff then some (BitVec.ofNat 32 bits.toNat) else none

/-- The mapped form of an IPv4 address. -/
def mapped (bits : BitVec 32) : BitVec 128 :=
  BitVec.ofNat 128 (0xffff * 4294967296 + bits.toNat)

/-- The address, in the IPv4 form if it maps one. -/
def canonical : IpAddress → IpAddress
  | v4 bits => v4 bits
  | v6 bits =>
    match mapped? bits with
    | some inner => v4 inner
    | none => v6 bits

theorem mapped?_mapped (bits : BitVec 32) : mapped? (mapped bits) = some bits := by
  have bound := bits.isLt
  have value : (mapped bits).toNat = 0xffff * 4294967296 + bits.toNat := by
    rw [mapped, BitVec.toNat_ofNat, Nat.mod_eq_of_lt]
    omega
  have high : (0xffff * 4294967296 + bits.toNat) / 4294967296 = 0xffff := by omega
  have low : BitVec.ofNat 32 (0xffff * 4294967296 + bits.toNat) = bits := by
    apply BitVec.eq_of_toNat_eq
    rw [BitVec.toNat_ofNat]
    omega
  rw [mapped?, value, if_pos high, low]

theorem canonical_mapped (bits : BitVec 32) : canonical (v6 (mapped bits)) = v4 bits := by
  rw [canonical, mapped?_mapped]

def octets (bits : BitVec 32) : List Nat :=
  [bits.toNat / 16777216, bits.toNat / 65536 % 256, bits.toNat / 256 % 256, bits.toNat % 256]

def groups (bits : BitVec 128) : List Nat :=
  (List.range 8).map fun i => (bits.toNat >>> (16 * (7 - i))) % 65536

end IpAddress

/-- A port on a host. -/
structure SocketAddress where
  ip : IpAddress
  port : UInt16
  /-- The zone of an IPv6 address, by its number; zero where none is given. -/
  zone : UInt32 := 0
  deriving DecidableEq, Repr

end PortMapper
