import PortMapper.Reply.Dump
import PortMapper.Proofs.Reply.Listing

/-!
# Dumps read back

The line of an entry reads back as the entry, whatever its name is (`DumpEntry.parse_line`), so a dump reads
back exactly if no name holds a line feed, and what was read of any bytes reads back
(`Dump.dump_survives_unless_line_feed`).
-/

namespace PortMapper

namespace DumpEntry

theorem parse_ok {line : Text} {entry : DumpEntry} : parse line = .ok entry ↔ ofLine? line = some entry := by
  unfold parse
  split <;> simp_all

/-- The state that a line begins with is found. -/
theorem stateOfLine?_eq_some {line rest : Text} {state : DumpState} :
    stateOfLine? line = some (state, rest) ↔ line = lineStart state ++ rest := by
  unfold stateOfLine?
  constructor
  · intro begins
    split at begins
    · next active =>
      cases begins
      exact Text.dropStart?_eq_some.mp active
    · obtain ⟨rest, oldUnused, ⟨⟩⟩ := Option.map_eq_some_iff.mp begins
      exact Text.dropStart?_eq_some.mp oldUnused
  · rintro rfl
    cases state with
    | active => rw [Text.dropStart?_eq_some.mpr rfl]
    | oldUnused =>
      have other : Text.dropStart? (lineStart .active) (lineStart .oldUnused ++ rest) = none := rfl
      rw [other, Text.dropStart?_eq_some.mpr rfl]
      rfl

theorem parse_line (entry : DumpEntry) : parse (line entry) = .ok entry := by
  have absent (n : Nat) : ' ' ∉ Text.Decimal.write n := by
    intro blank
    cases Text.Decimal.isDigit_of_mem_write blank
  let number := Text.Decimal.write entry.port.toNat
  let connection := Text.Decimal.write entry.fd.toNat
  have begins : stateOfLine? (line entry) =
      some (entry.state, entry.name ++ " at port ".toList ++ number ++ ", fd = ".toList ++ connection) := by
    refine stateOfLine?_eq_some.mpr ?_
    unfold line
    rw [List.append_assoc, List.append_assoc, List.append_assoc, List.append_assoc, List.append_assoc,
      List.append_assoc, List.append_assoc]
  have cutConnection : Text.cutLast? ", fd = ".toList
      (entry.name ++ " at port ".toList ++ number ++ ", fd = ".toList ++ connection) =
        some (entry.name ++ " at port ".toList ++ number, connection) :=
    Text.cutLast?_append (by decide) (absent _)
  have cutPort : Text.cutLast? " at port ".toList (entry.name ++ " at port ".toList ++ number) =
      some (entry.name, number) :=
    Text.cutLast?_append (by decide) (absent _)
  have port : Text.Decimal.readUInt16 number = .ok entry.port := Text.Decimal.readUInt16_write _
  have fd : Text.Decimal.readUInt64 (Text.trim connection) = .ok entry.fd := by
    rw [Text.Decimal.trim_write, Text.Decimal.readUInt64_write]
  simp only [parse_ok, ofLine?, begins, cutConnection, cutPort, port, fd, Option.bind_eq_bind,
    Option.bind_some, Except.toOption]
  rfl

theorem name_subset {text : Text} {entry : DumpEntry} (parsed : parse text = .ok entry) :
    entry.name ⊆ text := by
  obtain ⟨⟨state, rest⟩, begins, parsed⟩ := Option.bind_eq_some_iff.mp (parse_ok.mp parsed)
  obtain ⟨⟨rest, fd⟩, cutConnection, parsed⟩ := Option.bind_eq_some_iff.mp parsed
  obtain ⟨⟨name, port⟩, cutPort, parsed⟩ := Option.bind_eq_some_iff.mp parsed
  obtain ⟨number, _, parsed⟩ := Option.bind_eq_some_iff.mp parsed
  obtain ⟨connection, _, ⟨⟩⟩ := Option.bind_eq_some_iff.mp parsed
  rw [stateOfLine?_eq_some.mp begins, Text.cutLast?_sound cutConnection, Text.cutLast?_sound cutPort]
  intro c member
  simp [member]

theorem plainBut_line (entry : DumpEntry) : Listing.PlainBut entry.name (line entry) := by
  have start : ∀ state, ∀ c ∈ lineStart state, Listing.Plain c := by
    rintro (_ | _) <;> simp [lineStart, DumpState.label, Listing.Plain, Text.Latin1.isLatin1]
  have port : ∀ c ∈ " at port ".toList, Listing.Plain c := by
    simp [Listing.Plain, Text.Latin1.isLatin1]
  have fd : ∀ c ∈ ", fd = ".toList, Listing.Plain c := by
    simp [Listing.Plain, Text.Latin1.isLatin1]
  unfold line
  refine Listing.plainBut_append ?_ (Listing.plainBut_write _ _)
  refine Listing.plainBut_append ?_ (Listing.plainBut_of_plain fd)
  refine Listing.plainBut_append ?_ (Listing.plainBut_write _ _)
  refine Listing.plainBut_append ?_ (Listing.plainBut_of_plain port)
  exact Listing.plainBut_append (Listing.plainBut_of_plain (start entry.state)) (Listing.plainBut_self _)

theorem lawful : Listing.Lawful name line parse where
  parse_line := parse_line
  name_subset := name_subset
  plain_line := plainBut_line
  ends := by
    intro entry
    obtain ⟨last, ends, digit⟩ := Text.Decimal.getLast?_append_write _ entry.fd.toNat
    refine ⟨last, ends, ?_⟩
    rintro rfl
    cases digit

end DumpEntry

namespace Dump

variable {dump : Dump} {bytes : Bytes}

theorem decode_ok :
    decode bytes = .ok dump ↔
      Listing.decode DumpEntry.parse bytes = .ok (dump.daemonPort, dump.entries) := by
  rw [decode, bind_eq_ok]
  constructor
  · rintro ⟨⟨daemonPort, entries⟩, read, ⟨⟩⟩
    exact read
  · intro read
    exact ⟨_, read, rfl⟩

/-- A dump is written exactly if its names are Latin-1. -/
theorem exists_encode :
    (∃ bytes, dump.encode = .ok bytes) ↔
      ∀ entry ∈ dump.entries, ∀ c ∈ entry.name, Text.Latin1.isLatin1 c = true :=
  Listing.exists_encode DumpEntry.lawful

/-- A dump that was written reads back exactly if no name in it holds a line feed. -/
theorem decode_encode_iff (wrote : dump.encode = .ok bytes) :
    decode bytes = .ok dump ↔ ∀ entry ∈ dump.entries, '\n' ∉ entry.name :=
  decode_ok.trans (Listing.decode_encode_iff DumpEntry.lawful wrote)

/-! ## The code of dumps -/

/-- A dump with Latin-1 names is written, and reads back exactly if no name in it holds a line feed. A dump that was
read of any bytes is written, and reads back as the same. -/
theorem dump_survives_unless_line_feed :
    (∀ dump : Dump, (∀ entry ∈ dump.entries, ∀ c ∈ entry.name, c.toNat ≤ 0xff) →
      ∃ bytes, dump.encode = .ok bytes ∧
        (decode bytes = .ok dump ↔ ∀ entry ∈ dump.entries, '\n' ∉ entry.name)) ∧
    (∀ bytes dump, decode bytes = .ok dump →
      ∃ again, dump.encode = .ok again ∧ decode again = .ok dump) := by
  constructor
  · intro dump latin
    obtain ⟨bytes, wrote, back⟩ := Listing.exists_encode_and_decode_iff DumpEntry.lawful latin
    exact ⟨bytes, wrote, decode_ok.trans back⟩
  · intro bytes dump read
    obtain ⟨again, wrote, same⟩ := Listing.decode_encode_of_decode DumpEntry.lawful (decode_ok.mp read)
    exact ⟨again, wrote, decode_ok.mpr same⟩

/-- Names that imitate both separators, and a whole line of another state. -/
def disguised : Dump :=
  ⟨4369,
    [⟨.active, ", fd = 7".toList, 1, 18446744073709551615⟩, ⟨.oldUnused, " at port 1".toList, 65535, 0⟩,
      ⟨.active, "old/unused name\té at port 2, fd = 3".toList, 9, 10⟩]⟩

/-- Two entries in one. -/
def doubled : Dump :=
  ⟨4369, [⟨.active, "a at port 1, fd = 1\nold/unused name\tb".toList, 9, 2⟩]⟩

/-- A dump with a blank line, a carriage return, blanks around the number of a connection and a line feed at its
end. -/
def loose : Bytes :=
  [0, 0, 17, 17] ++
    "\nactive name\ta at port +7, fd =  08 \r\nold/unused name\tb at port 9, fd = 1\n".toList.map fun c =>
      UInt8.ofNat c.toNat

/-- Entries in disguise read back, doubled ones do not, and what is read of a loose dump reads back. -/
theorem dump_survives_unless_line_feed_of_disguised :
    (∃ bytes, disguised.encode = .ok bytes ∧ decode bytes = .ok disguised) ∧
    (∃ bytes, doubled.encode = .ok bytes ∧ decode bytes ≠ .ok doubled) ∧
    decode loose = .ok ⟨4369, [⟨.active, ['a'], 7, 8⟩, ⟨.oldUnused, ['b'], 9, 1⟩]⟩ ∧
    ∃ again, encode ⟨4369, [⟨.active, ['a'], 7, 8⟩, ⟨.oldUnused, ['b'], 9, 1⟩]⟩ = .ok again ∧
      decode again = .ok ⟨4369, [⟨.active, ['a'], 7, 8⟩, ⟨.oldUnused, ['b'], 9, 1⟩]⟩ := by
  obtain ⟨survives, reads⟩ := dump_survives_unless_line_feed
  obtain ⟨bytes, wrote, back⟩ := survives disguised (by simp [disguised])
  obtain ⟨bytes', wrote', back'⟩ := survives doubled (by simp [doubled])
  have read : decode loose = .ok ⟨4369, [⟨.active, ['a'], 7, 8⟩, ⟨.oldUnused, ['b'], 9, 1⟩]⟩ := by rfl
  exact ⟨⟨bytes, wrote, back.mpr (by decide)⟩, ⟨bytes', wrote', mt back'.mp (by decide)⟩, read, reads loose _ read⟩

end Dump

end PortMapper
