import PortMapper.Reply.Listing
import PortMapper.Proofs.Reader
import PortMapper.Proofs.Text.Decimal
import PortMapper.Proofs.Text.Lines

/-!
# Listings read back

Entries have a name and are written as lines. If a line reads back as its entry and is plain but for the name
in it (`Lawful`), a listing is written exactly if the names are Latin-1 (`exists_encode`), and reads back
exactly if no name holds a line feed (`decode_encode_iff`). What was read of any bytes has such names, so it is
written and reads back (`decode_encode_of_decode`).
-/

namespace PortMapper.Listing

variable {α : Type}

/-- A character that has a byte and does not end a line. -/
def Plain (c : Char) : Prop :=
  c ≠ '\n' ∧ Text.Latin1.isLatin1 c = true

/-- Whatever is not plain in a text comes from a name. -/
def PlainBut (name text : Text) : Prop :=
  ∀ c ∈ text, c ∈ name ∨ Plain c

/-- Lines that read back as their entries and are plain but for the names in them. -/
structure Lawful (name line : α → Text) (parse : Text → Except WireError α) : Prop where
  parse_line : ∀ entry, parse (line entry) = .ok entry
  name_subset : ∀ {text entry}, parse text = .ok entry → name entry ⊆ text
  plain_line : ∀ entry, PlainBut (name entry) (line entry)
  ends : ∀ entry, ∃ last, (line entry).getLast? = some last ∧ last ≠ '\r'

/-! ## Plain text -/

theorem plainBut_append {name before after : Text} (first : PlainBut name before)
    (second : PlainBut name after) : PlainBut name (before ++ after) :=
  List.forall_mem_append.mpr ⟨first, second⟩

theorem plainBut_self (name : Text) : PlainBut name name :=
  fun _ => .inl

theorem plainBut_of_plain {name text : Text} (plain : ∀ c ∈ text, Plain c) : PlainBut name text :=
  fun c member => .inr (plain c member)

theorem plainBut_write (name : Text) (n : Nat) : PlainBut name (Text.Decimal.write n) := by
  refine plainBut_of_plain fun c member => ?_
  obtain ⟨lower, upper⟩ := Text.Decimal.toNat_of_isDigit (Text.Decimal.isDigit_of_mem_write member)
  constructor
  · rintro rfl
    exact absurd lower (by decide)
  · rw [Text.Latin1.isLatin1, decide_eq_true_iff]
    omega

/-! ## Lists of lines -/

theorem mapM_line {line : α → Text} {parse : Text → Except WireError α} {entries : List α}
    (reads : ∀ entry ∈ entries, parse (line entry) = .ok entry) :
    (entries.map line).mapM parse = .ok entries := by
  induction entries with
  | nil => rfl
  | cons entry entries ih =>
    obtain ⟨first, rest⟩ := List.forall_mem_cons.mp reads
    rw [List.map_cons, List.mapM_cons, first, ih rest]
    rfl

theorem exists_of_mapM {parse : Text → Except WireError α} {lines : List Text} {entries : List α}
    (read : lines.mapM parse = .ok entries) :
    ∀ entry ∈ entries, ∃ line ∈ lines, parse line = .ok entry := by
  induction lines generalizing entries with
  | nil =>
    cases read
    exact nofun
  | cons line lines ih =>
    rw [List.mapM_cons] at read
    obtain ⟨first, parsed, read⟩ := bind_eq_ok.mp read
    obtain ⟨rest, others, ⟨⟩⟩ := bind_eq_ok.mp read
    refine List.forall_mem_cons.mpr ⟨⟨line, List.mem_cons_self, parsed⟩, fun entry member => ?_⟩
    obtain ⟨other, found, same⟩ := ih others entry member
    exact ⟨other, List.mem_cons_of_mem _ found, same⟩

theorem encode_ok {daemonPort : UInt32} {lines : List Text} {bytes : Bytes} :
    encode daemonPort lines = .ok bytes ↔
      ∃ body, Text.Latin1.encode "listing" (text lines) = .ok body ∧
        BigEndian.ofUInt32 daemonPort ++ body = bytes := by
  simp only [encode, bind_eq_ok, pure, Except.pure, Except.ok.injEq]

theorem decode_ok {parse : Text → Except WireError α} {daemonPort : UInt32} {body : Bytes}
    {result : UInt32 × List α} :
    decode parse (BigEndian.ofUInt32 daemonPort ++ body) = .ok result ↔
      result.1 = daemonPort ∧ (entryLines (Text.Latin1.decode body)).mapM parse = .ok result.2 := by
  have read : reader.read (BigEndian.ofUInt32 daemonPort ++ body) =
      .ok (daemonPort, Text.Latin1.decode body) := by
    simp only [Reader.read, reader, Reader.run_bind, Reader.u32_append]
    rfl
  rw [decode, read]
  constructor
  · intro decoded
    obtain ⟨_, ⟨⟩, decoded⟩ := bind_eq_ok.mp decoded
    obtain ⟨entries, parsed, ⟨⟩⟩ := bind_eq_ok.mp decoded
    exact ⟨rfl, parsed⟩
  · obtain ⟨port, entries⟩ := result
    rintro ⟨rfl, parsed⟩
    exact bind_eq_ok.mpr ⟨_, rfl, bind_eq_ok.mpr ⟨entries, parsed, rfl⟩⟩

section

variable {name line : α → Text} {parse : Text → Except WireError α} {entries : List α}
  {daemonPort : UInt32} {bytes : Bytes}

theorem exists_encode (lawful : Lawful name line parse) :
    (∃ bytes, encode daemonPort (entries.map line) = .ok bytes) ↔
      ∀ entry ∈ entries, ∀ c ∈ name entry, Text.Latin1.isLatin1 c = true := by
  constructor
  · rintro ⟨bytes, wrote⟩ entry member c inside
    obtain ⟨body, latin, _⟩ := encode_ok.mp wrote
    have inLine := lawful.name_subset (lawful.parse_line entry) inside
    exact Text.Latin1.exists_encode.mp ⟨body, latin⟩ c
      (Text.subset_joinLines (List.mem_map_of_mem member) inLine)
  · intro latin
    have clean : ∀ c ∈ text (entries.map line), Text.Latin1.isLatin1 c = true := by
      intro c member
      rcases Text.mem_joinLines member with rfl | ⟨_, found, inside⟩
      · rfl
      · obtain ⟨entry, listed, rfl⟩ := List.mem_map.mp found
        rcases lawful.plain_line entry c inside with named | ⟨_, plain⟩
        · exact latin entry listed c named
        · exact plain
    obtain ⟨body, wrote⟩ := Text.Latin1.exists_encode.mpr clean
    exact ⟨_, encode_ok.mpr ⟨body, wrote, rfl⟩⟩

theorem entryLines_text (lawful : Lawful name line parse)
    (clean : ∀ entry ∈ entries, '\n' ∉ name entry) :
    entryLines (text (entries.map line)) = entries.map line := by
  have whole : ∀ text ∈ entries.map line, '\n' ∉ text := by
    intro text member feed
    obtain ⟨entry, listed, rfl⟩ := List.mem_map.mp member
    rcases lawful.plain_line entry _ feed with named | ⟨other, _⟩
    · exact clean entry listed named
    · exact other rfl
  have closed : ∀ text ∈ entries.map line, text ≠ [] ∧ text.getLast? ≠ some '\r' := by
    intro text member
    obtain ⟨entry, _, rfl⟩ := List.mem_map.mp member
    obtain ⟨last, ends, other⟩ := lawful.ends entry
    refine ⟨fun empty => ?_, fun returned => ?_⟩
    · rw [empty] at ends
      cases ends
    · rw [ends, Option.some.injEq] at returned
      exact other returned
  rw [entryLines, text, Text.lines_joinLines whole closed, List.filter_eq_self]
  intro text member
  simpa using (closed text member).1

/-- The name of an entry that is read stands in a line of some bytes read as text. -/
theorem name_subset_of_decode (lawful : Lawful name line parse)
    (read : decode parse bytes = .ok (daemonPort, entries)) :
    ∃ body, ∀ entry ∈ entries, ∃ text ∈ (Text.Latin1.decode body).lines, name entry ⊆ text := by
  obtain ⟨⟨port, whole⟩, listed, later⟩ := bind_eq_ok.mp read
  obtain ⟨_, parsed, ⟨⟩⟩ := bind_eq_ok.mp later
  obtain ⟨_, taken⟩ := Reader.read_ok.mp listed
  simp only [reader, Reader.bind_ok, Reader.rest_ok, Reader.pure_ok, Prod.mk.injEq] at taken
  obtain ⟨_, _, _, body, _, _, ⟨_, rfl⟩, _⟩ := taken
  refine ⟨body, fun entry member => ?_⟩
  obtain ⟨text, found, same⟩ := exists_of_mapM parsed entry member
  exact ⟨text, (List.mem_filter.mp found).1, lawful.name_subset same⟩

/-- No name that is read holds a line feed. -/
theorem not_mem_of_decode (lawful : Lawful name line parse)
    (read : decode parse bytes = .ok (daemonPort, entries)) :
    ∀ entry ∈ entries, '\n' ∉ name entry := by
  obtain ⟨body, named⟩ := name_subset_of_decode lawful read
  intro entry member feed
  -- The name was cut from a line, and lines are what stands between line feeds.
  obtain ⟨text, found, subset⟩ := named entry member
  exact Text.not_mem_of_mem_lines found (subset feed)

/-- Every name that is read is Latin-1. -/
theorem isLatin1_of_decode (lawful : Lawful name line parse)
    (read : decode parse bytes = .ok (daemonPort, entries)) :
    ∀ entry ∈ entries, ∀ c ∈ name entry, Text.Latin1.isLatin1 c = true := by
  obtain ⟨body, named⟩ := name_subset_of_decode lawful read
  intro entry member c inside
  obtain ⟨text, found, subset⟩ := named entry member
  have latin := Text.Latin1.exists_encode.mp ⟨body, Text.Latin1.encode_decode "listing" body⟩
  exact latin c (Text.subset_of_mem_lines found (subset inside))

/-- What was written reads back exactly if no name holds a line feed. -/
theorem decode_encode_iff (lawful : Lawful name line parse)
    (wrote : encode daemonPort (entries.map line) = .ok bytes) :
    decode parse bytes = .ok (daemonPort, entries) ↔ ∀ entry ∈ entries, '\n' ∉ name entry := by
  refine ⟨not_mem_of_decode lawful, fun clean => ?_⟩
  obtain ⟨body, latin, rfl⟩ := encode_ok.mp wrote
  refine decode_ok.mpr ⟨rfl, ?_⟩
  rw [Text.Latin1.decode_encode latin, entryLines_text lawful clean]
  exact mapM_line fun entry _ => lawful.parse_line entry

/-- A listing with Latin-1 names is written, and reads back exactly if no name holds a line feed. -/
theorem exists_encode_and_decode_iff (lawful : Lawful name line parse)
    (latin : ∀ entry ∈ entries, ∀ c ∈ name entry, c.toNat ≤ 0xff) :
    ∃ bytes, encode daemonPort (entries.map line) = .ok bytes ∧
      (decode parse bytes = .ok (daemonPort, entries) ↔ ∀ entry ∈ entries, '\n' ∉ name entry) := by
  have clean : ∀ entry ∈ entries, ∀ c ∈ name entry, Text.Latin1.isLatin1 c = true := by
    intro entry member c inside
    exact decide_eq_true (latin entry member c inside)
  obtain ⟨bytes, wrote⟩ := (exists_encode lawful).mpr clean
  exact ⟨bytes, wrote, decode_encode_iff lawful wrote⟩

/-- What was read of any bytes is written, and reads back as the same. -/
theorem decode_encode_of_decode (lawful : Lawful name line parse)
    (read : decode parse bytes = .ok (daemonPort, entries)) :
    ∃ again, encode daemonPort (entries.map line) = .ok again ∧
      decode parse again = .ok (daemonPort, entries) := by
  obtain ⟨again, wrote⟩ := (exists_encode lawful).mpr (isLatin1_of_decode lawful read)
  exact ⟨again, wrote, (decode_encode_iff lawful wrote).mpr (not_mem_of_decode lawful read)⟩

end

end PortMapper.Listing
