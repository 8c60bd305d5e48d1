/-!
# Bytes and text

What travels on a connection is a list of bytes, and what people read is a list of characters.
Integers on the wire are big-endian. They are split and joined by arithmetic on natural numbers,
so a value that is written and read again is the same value (`toUInt16_ofUInt16`,
`toUInt32_ofUInt32`), and so are the bytes (`ofUInt16_toUInt16`). What is joined is the number that the
bytes stand for at base 256 (`toNat_toUInt16`, `toNat_toUInt32`).
-/

namespace PortMapper

/-- Bytes in the order in which they are sent. -/
abbrev Bytes := List UInt8

/-- Text as its characters. -/
abbrev Text := List Char

namespace BigEndian

/-- The two bytes of a 16-bit number, high byte first. -/
def ofUInt16 (n : UInt16) : Bytes :=
  [UInt8.ofNat (n.toNat / 256), UInt8.ofNat (n.toNat % 256)]

/-- The 16-bit number of two bytes, high byte first. -/
def toUInt16 (high low : UInt8) : UInt16 :=
  UInt16.ofNat (high.toNat * 256 + low.toNat)

/-- The four bytes of a 32-bit number, high byte first. -/
def ofUInt32 (n : UInt32) : Bytes :=
  [UInt8.ofNat (n.toNat / 16777216), UInt8.ofNat (n.toNat / 65536 % 256),
    UInt8.ofNat (n.toNat / 256 % 256), UInt8.ofNat (n.toNat % 256)]

/-- The 32-bit number of four bytes, high byte first. -/
def toUInt32 (a b c d : UInt8) : UInt32 :=
  UInt32.ofNat (a.toNat * 16777216 + b.toNat * 65536 + c.toNat * 256 + d.toNat)

/-- The number that bytes stand for at base 256, high byte first. -/
def value (bytes : Bytes) : Nat :=
  bytes.foldl (fun n byte => n * 256 + byte.toNat) 0

theorem toUInt16_ofUInt16 (n : UInt16) :
    toUInt16 (UInt8.ofNat (n.toNat / 256)) (UInt8.ofNat (n.toNat % 256)) = n := by
  have bound := n.toNat_lt
  apply UInt16.toNat.inj
  simp only [toUInt16, UInt8.toNat_ofNat', UInt16.toNat_ofNat']
  omega

theorem ofUInt16_toUInt16 (high low : UInt8) : ofUInt16 (toUInt16 high low) = [high, low] := by
  have boundHigh := high.toNat_lt
  have boundLow := low.toNat_lt
  simp only [ofUInt16, toUInt16, UInt16.toNat_ofNat', List.cons.injEq, and_true]
  constructor <;> apply UInt8.toNat.inj <;> simp only [UInt8.toNat_ofNat'] <;> omega

theorem toUInt32_ofUInt32 (n : UInt32) :
    toUInt32 (UInt8.ofNat (n.toNat / 16777216)) (UInt8.ofNat (n.toNat / 65536 % 256))
      (UInt8.ofNat (n.toNat / 256 % 256)) (UInt8.ofNat (n.toNat % 256)) = n := by
  have bound := n.toNat_lt
  apply UInt32.toNat.inj
  simp only [toUInt32, UInt8.toNat_ofNat', UInt32.toNat_ofNat']
  omega

theorem toNat_toUInt16 (high low : UInt8) : (toUInt16 high low).toNat = value [high, low] := by
  have boundHigh := high.toNat_lt
  have boundLow := low.toNat_lt
  simp only [toUInt16, value, List.foldl_cons, List.foldl_nil, UInt16.toNat_ofNat']
  omega

theorem toNat_toUInt32 (a b c d : UInt8) : (toUInt32 a b c d).toNat = value [a, b, c, d] := by
  have boundA := a.toNat_lt
  have boundB := b.toNat_lt
  have boundC := c.toNat_lt
  have boundD := d.toNat_lt
  simp only [toUInt32, value, List.foldl_cons, List.foldl_nil, UInt32.toNat_ofNat']
  omega

@[simp] theorem length_ofUInt16 (n : UInt16) : (ofUInt16 n).length = 2 := rfl

@[simp] theorem length_ofUInt32 (n : UInt32) : (ofUInt32 n).length = 4 := rfl

end BigEndian

end PortMapper
