import PortMapper.Reply.Names
import PortMapper.Proofs.Reply.Listing

/-!
# Name listings read back

The line of a node reads back as the node, whatever its name is (`NamedPort.parse_line`): the words of the
line may stand in the name, for the last place where they stand is taken. So a name listing reads back exactly
if no name holds a line feed, and what was read of any bytes reads back
(`NameListing.name_listing_survives_unless_line_feed`).
-/

namespace PortMapper

namespace NamedPort

theorem parse_ok {line : Text} {entry : NamedPort} : parse line = .ok entry ↔ ofLine? line = some entry := by
  unfold parse
  split <;> simp_all

theorem parse_line (entry : NamedPort) : parse (line entry) = .ok entry := by
  have absent : ' ' ∉ Text.Decimal.write entry.port.toNat := by
    intro blank
    cases Text.Decimal.isDigit_of_mem_write blank
  have begins : Text.dropStart? "name ".toList (line entry) =
      some (entry.name ++ " at port ".toList ++ Text.Decimal.write entry.port.toNat) := by
    refine Text.dropStart?_eq_some.mpr ?_
    unfold line
    rw [List.append_assoc, List.append_assoc, List.append_assoc]
  have cut : Text.cutLast? " at port ".toList
      (entry.name ++ " at port ".toList ++ Text.Decimal.write entry.port.toNat) =
        some (entry.name, Text.Decimal.write entry.port.toNat) :=
    Text.cutLast?_append (by decide) absent
  have number : Text.Decimal.readUInt16 (Text.trim (Text.Decimal.write entry.port.toNat)) =
      .ok entry.port := by
    rw [Text.Decimal.trim_write, Text.Decimal.readUInt16_write]
  simp only [parse_ok, ofLine?, begins, cut, number, Option.bind_eq_bind, Option.bind_some, Except.toOption]
  rfl

theorem name_subset {text : Text} {entry : NamedPort} (parsed : parse text = .ok entry) :
    entry.name ⊆ text := by
  obtain ⟨rest, begins, parsed⟩ := Option.bind_eq_some_iff.mp (parse_ok.mp parsed)
  obtain ⟨⟨name, port⟩, cut, parsed⟩ := Option.bind_eq_some_iff.mp parsed
  obtain ⟨number, _, ⟨⟩⟩ := Option.bind_eq_some_iff.mp parsed
  rw [Text.dropStart?_eq_some.mp begins, Text.cutLast?_sound cut]
  intro c member
  simp [member]

theorem plainBut_line (entry : NamedPort) : Listing.PlainBut entry.name (line entry) := by
  have start : ∀ c ∈ "name ".toList, Listing.Plain c := by
    simp [Listing.Plain, Text.Latin1.isLatin1]
  have port : ∀ c ∈ " at port ".toList, Listing.Plain c := by
    simp [Listing.Plain, Text.Latin1.isLatin1]
  unfold line
  refine Listing.plainBut_append ?_ (Listing.plainBut_write _ _)
  refine Listing.plainBut_append ?_ (Listing.plainBut_of_plain port)
  exact Listing.plainBut_append (Listing.plainBut_of_plain start) (Listing.plainBut_self _)

theorem lawful : Listing.Lawful name line parse where
  parse_line := parse_line
  name_subset := name_subset
  plain_line := plainBut_line
  ends := by
    intro entry
    obtain ⟨last, ends, digit⟩ := Text.Decimal.getLast?_append_write _ entry.port.toNat
    refine ⟨last, ends, ?_⟩
    rintro rfl
    cases digit

end NamedPort

namespace NameListing

variable {listing : NameListing} {bytes : Bytes}

theorem decode_ok :
    decode bytes = .ok listing ↔
      Listing.decode NamedPort.parse bytes = .ok (listing.daemonPort, listing.nodes) := by
  rw [decode, bind_eq_ok]
  constructor
  · rintro ⟨⟨daemonPort, nodes⟩, read, ⟨⟩⟩
    exact read
  · intro read
    exact ⟨_, read, rfl⟩

/-- A name listing is written exactly if its names are Latin-1. -/
theorem exists_encode :
    (∃ bytes, listing.encode = .ok bytes) ↔
      ∀ entry ∈ listing.nodes, ∀ c ∈ entry.name, Text.Latin1.isLatin1 c = true :=
  Listing.exists_encode NamedPort.lawful

/-- A name listing that was written reads back exactly if no name in it holds a line feed. -/
theorem decode_encode_iff (wrote : listing.encode = .ok bytes) :
    decode bytes = .ok listing ↔ ∀ entry ∈ listing.nodes, '\n' ∉ entry.name :=
  decode_ok.trans (Listing.decode_encode_iff NamedPort.lawful wrote)

/-! ## The code of name listings -/

/-- A name listing with Latin-1 names is written, and reads back exactly if no name in it holds a line feed. A
name listing that was read of any bytes is written, and reads back as the same. -/
theorem name_listing_survives_unless_line_feed :
    (∀ listing : NameListing, (∀ entry ∈ listing.nodes, ∀ c ∈ entry.name, c.toNat ≤ 0xff) →
      ∃ bytes, listing.encode = .ok bytes ∧
        (decode bytes = .ok listing ↔ ∀ entry ∈ listing.nodes, '\n' ∉ entry.name)) ∧
    (∀ bytes listing, decode bytes = .ok listing →
      ∃ again, listing.encode = .ok again ∧ decode again = .ok listing) := by
  constructor
  · intro listing latin
    obtain ⟨bytes, wrote, back⟩ := Listing.exists_encode_and_decode_iff NamedPort.lawful latin
    exact ⟨bytes, wrote, decode_ok.trans back⟩
  · intro bytes listing read
    obtain ⟨again, wrote, same⟩ := Listing.decode_encode_of_decode NamedPort.lawful (decode_ok.mp read)
    exact ⟨again, wrote, decode_ok.mpr same⟩

/-- Names that look like what stands around them. -/
def disguised : NameListing :=
  ⟨4369, [⟨[], 1⟩, ⟨" at port ".toList, 22⟩, ⟨"name é at port".toList, 65535⟩, ⟨"\r".toList, 0⟩]⟩

/-- Two names in one. -/
def doubled : NameListing :=
  ⟨4369, [⟨"a at port 1\nname b".toList, 9⟩]⟩

/-- A listing with a blank line, a carriage return, blanks around a port and a line feed at its end. -/
def loose : Bytes :=
  [0, 0, 17, 17] ++ "name a at port  7 \r\n\nname b at port +8\n".toList.map fun c => UInt8.ofNat c.toNat

/-- Names in disguise read back, doubled ones do not, and what is read of a loose listing reads back. -/
theorem name_listing_survives_unless_line_feed_of_disguised :
    (∃ bytes, disguised.encode = .ok bytes ∧ decode bytes = .ok disguised) ∧
    (∃ bytes, doubled.encode = .ok bytes ∧ decode bytes ≠ .ok doubled) ∧
    decode loose = .ok ⟨4369, [⟨['a'], 7⟩, ⟨['b'], 8⟩]⟩ ∧
    ∃ again, encode ⟨4369, [⟨['a'], 7⟩, ⟨['b'], 8⟩]⟩ = .ok again ∧
      decode again = .ok ⟨4369, [⟨['a'], 7⟩, ⟨['b'], 8⟩]⟩ := by
  obtain ⟨survives, reads⟩ := name_listing_survives_unless_line_feed
  obtain ⟨bytes, wrote, back⟩ := survives disguised (by simp [disguised])
  obtain ⟨bytes', wrote', back'⟩ := survives doubled (by simp [doubled])
  have read : decode loose = .ok ⟨4369, [⟨['a'], 7⟩, ⟨['b'], 8⟩]⟩ := by rfl
  exact ⟨⟨bytes, wrote, back.mpr (by decide)⟩, ⟨bytes', wrote', mt back'.mp (by decide)⟩, read, reads loose _ read⟩

end NameListing

end PortMapper
