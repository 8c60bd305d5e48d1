import PortMapper.Proofs.Reader
import PortMapper.Proofs.Request.Fitting
import PortMapper.Reader.Log

/-!
# Accounting for the bytes of a buffer

Each read consumes bytes in front and leaves the others (`exists_consumed`). What it gives says which bytes it
consumed (`Gives`), and a read that fails consumes nothing, but for a short field whose content is cut short: its
two bytes of length are gone (`Fails`). So after any reads, whichever of them failed, what was consumed and what remains
are the buffer (`consumed_append_remaining`), and finishing tells whether it was all consumed
(`reads_account_for_every_byte`).

A reader that makes some reads and stops at the first one that fails (`Reader.Makes`) leaves what these leave, so the
same is true of it (`Makes.exists_made`). The reader of a description is one (`NodeDescription.makes_reads`), and the
length that a description says it has on the wire is what its reads consumed (`NodeDescription.length_consumed`).
-/

namespace PortMapper

namespace Read

variable {field : String} {given left buffer : Bytes} {reads : List Read} {earlier later : List Entry} {entry : Entry}

/-! ## One read -/

/-- A field needs more bytes than are left, and the error says so. -/
def Lacks (field : String) (needed : Nat) (left : Bytes) (error : WireError) : Prop :=
  left.length < needed ∧ error = .truncatedField field needed left.length

/-- The value is exactly that of the bytes that were consumed for it. -/
def Gives : (read : Read) → read.Value → (consumed left : Bytes) → Prop
  | .u8 _, (n : UInt8), consumed, _ => consumed.length = 1 ∧ BigEndian.value consumed = n.toNat
  | .u16 _, (n : UInt16), consumed, _ => consumed.length = 2 ∧ BigEndian.value consumed = n.toNat
  | .u32 _, (n : UInt32), consumed, _ => consumed.length = 4 ∧ BigEndian.value consumed = n.toNat
  | .bytes _ count, content, consumed, _ => consumed = content ∧ content.length = count
  | .short _, (content : Bytes), consumed, _ => ∃ length, consumed = length ++ content ∧
      length.length = 2 ∧ BigEndian.value length = content.length
  | .rest, content, consumed, left => consumed = content ∧ left = []

/-- The error says which field lacks bytes; only a short field may have consumed some, which are its length. -/
def Fails : Read → WireError → (consumed left : Bytes) → Prop
  | .u8 field, error, consumed, left => consumed = [] ∧ Lacks field 1 left error
  | .u16 field, error, consumed, left => consumed = [] ∧ Lacks field 2 left error
  | .u32 field, error, consumed, left => consumed = [] ∧ Lacks field 4 left error
  | .bytes field count, error, consumed, left => consumed = [] ∧ Lacks field count left error
  | .short field, error, consumed, left => (consumed = [] ∧ Lacks field 2 left error) ∨
      (consumed.length = 2 ∧ Lacks field (BigEndian.value consumed) left error)
  | .rest, _, _, _ => False

/-- The result of a read fits the bytes that it consumed and left. -/
def Fits (read : Read) : Except WireError read.Value → (consumed left : Bytes) → Prop
  | .ok value => read.Gives value
  | .error error => read.Fails error

theorem exists_consumed_u8 {result : Except WireError UInt8} (run : (Reader.u8 field).run given = (result, left)) :
    ∃ consumed, given = consumed ++ left ∧ (u8 field).Fits result consumed left := by
  match given with
  | [] =>
    cases run
    exact ⟨[], rfl, rfl, Nat.zero_lt_one, rfl⟩
  | byte :: tail =>
    cases run
    exact ⟨[byte], rfl, rfl, by simp [BigEndian.value]⟩

theorem exists_consumed_u16 {result : Except WireError UInt16} (run : (Reader.u16 field).run given = (result, left)) :
    ∃ consumed, given = consumed ++ left ∧ (u16 field).Fits result consumed left := by
  match given with
  | [] | [_] =>
    cases run
    exact ⟨[], rfl, rfl, by simp, rfl⟩
  | high :: low :: tail =>
    cases run
    exact ⟨[high, low], rfl, rfl, (BigEndian.toNat_toUInt16 high low).symm⟩

theorem exists_consumed_u32 {result : Except WireError UInt32} (run : (Reader.u32 field).run given = (result, left)) :
    ∃ consumed, given = consumed ++ left ∧ (u32 field).Fits result consumed left := by
  match given with
  | [] | [_] | [_, _] | [_, _, _] =>
    cases run
    exact ⟨[], rfl, rfl, by simp, rfl⟩
  | a :: b :: c :: d :: tail =>
    cases run
    exact ⟨[a, b, c, d], rfl, rfl, (BigEndian.toNat_toUInt32 a b c d).symm⟩

theorem exists_consumed_bytes {count : Nat} {result : Except WireError Bytes}
    (run : (Reader.bytes field count).run given = (result, left)) :
    ∃ consumed, given = consumed ++ left ∧ (bytes field count).Fits result consumed left := by
  unfold Reader.run Reader.bytes at run
  split at run
  · next lacks =>
    cases run
    exact ⟨[], rfl, rfl, lacks, rfl⟩
  · next enough =>
    cases run
    exact ⟨given.take count, (List.take_append_drop count given).symm, rfl,
      List.length_take_of_le (Nat.le_of_not_lt enough)⟩

/-- The length of a short field stays consumed when less than it announces is left. -/
theorem exists_consumed_short {result : Except WireError Bytes}
    (run : (Reader.short field).run given = (result, left)) :
    ∃ consumed, given = consumed ++ left ∧ (short field).Fits result consumed left := by
  rw [Reader.short, Reader.run_bind] at run
  cases counted : (Reader.u16 field).run given with
  | mk count middle =>
    rw [counted] at run
    obtain ⟨length, rfl, fits⟩ := exists_consumed_u16 counted
    cases count with
    | error error =>
      cases run
      exact ⟨length, rfl, .inl fits⟩
    | ok count =>
      -- From here on the two bytes of the length are gone, whatever becomes of the content.
      obtain ⟨two, announced⟩ := fits
      obtain ⟨content, rfl, found⟩ := exists_consumed_bytes run
      cases result with
      | error error =>
        obtain ⟨rfl, lacks⟩ := found
        exact ⟨length, rfl, .inr ⟨two, announced ▸ lacks⟩⟩
      | ok content =>
        obtain ⟨rfl, enough⟩ := found
        exact ⟨length ++ content, (List.append_assoc ..).symm, length, rfl, two, announced.trans enough.symm⟩

/-- What a read consumed and what it leaves are what it was given, and its result fits them. -/
theorem exists_consumed {read : Read} {result : Except WireError read.Value}
    (run : read.reader.run given = (result, left)) :
    ∃ consumed, given = consumed ++ left ∧ read.Fits result consumed left := by
  cases read with
  | u8 field => exact exists_consumed_u8 run
  | u16 field => exact exists_consumed_u16 run
  | u32 field => exact exists_consumed_u32 run
  | bytes field count => exact exists_consumed_bytes run
  | short field => exact exists_consumed_short run
  | rest =>
    cases run
    exact ⟨given, (List.append_nil given).symm, rfl, rfl⟩

/-! ## Reads one after another -/

/-- The result of a read that was made fits what the log says of it. -/
def Entry.Fits (entry : Entry) : Prop :=
  entry.read.Fits entry.result entry.consumed entry.left

/-- The bytes in front of a rest are found by the length of the rest. -/
theorem take_of_append {front : Bytes} (split : given = front ++ left) :
    given.take (given.length - left.length) = front := by
  rw [split, List.length_append, Nat.add_sub_cancel, List.take_left']
  rfl

/-- What one read does to the account. -/
theorem entry_accounts (read : Read) (given : Bytes) :
    (read.entry given).consumed ++ (read.entry given).left = given ∧ (read.entry given).Fits := by
  have run : read.reader.run given = ((read.entry given).result, (read.entry given).left) := rfl
  obtain ⟨front, split, fits⟩ := exists_consumed run
  have taken : (read.entry given).consumed = front := take_of_append split
  rw [Entry.Fits, taken]
  exact ⟨split.symm, fits⟩

/-- What some reads consumed and what remains are the buffer. -/
theorem consumed_append_remaining (reads : List Read) (buffer : Bytes) :
    consumed (log reads buffer) ++ remaining reads buffer = buffer := by
  induction reads generalizing buffer with
  | nil => rfl
  | cons read reads ih =>
    rw [log_cons, consumed_cons, remaining_cons, List.append_assoc, ih]
    exact (entry_accounts read buffer).1

/-- The entries of a log are the log of the reads before, and what the next read makes of what these leave. -/
theorem eq_of_log (logged : log reads buffer = earlier ++ entry :: later) :
    ∃ (before : List Read) (read : Read),
      earlier = log before buffer ∧ entry = read.entry (remaining before buffer) := by
  induction earlier generalizing reads buffer with
  | nil =>
    cases reads with
    | nil => cases logged
    | cons read reads => exact ⟨[], read, rfl, (List.cons.inj logged).1.symm⟩
  | cons first earlier ih =>
    cases reads with
    | nil => cases logged
    | cons read reads =>
      obtain ⟨rfl, rest⟩ := List.cons.inj logged
      obtain ⟨before, next, rfl, rfl⟩ := ih rest
      exact ⟨read :: before, next, rfl, rfl⟩

/-- Nothing is left exactly if everything was consumed. -/
theorem remaining_eq_nil_iff (reads : List Read) (buffer : Bytes) :
    remaining reads buffer = [] ↔ consumed (log reads buffer) = buffer := by
  have whole := consumed_append_remaining reads buffer
  constructor
  · intro none
    rwa [none, List.append_nil] at whole
  · intro all
    exact List.append_right_eq_self.mp (all ▸ whole)

/-- However a buffer is read and whichever reads fail, each read is made, what was consumed so far and what remains are
the buffer, and each result fits the bytes that were consumed for it. Finishing succeeds exactly if everything was
consumed, and reports how many bytes remain otherwise. -/
theorem reads_account_for_every_byte (reads : List Read) (buffer : Bytes) :
    (log reads buffer).map (·.read) = reads ∧
    (∀ earlier entry later, log reads buffer = earlier ++ entry :: later →
      consumed earlier ++ entry.consumed ++ entry.left = buffer ∧ entry.Fits) ∧
    consumed (log reads buffer) ++ remaining reads buffer = buffer ∧
    ∀ count, (Reader.finish count).read (remaining reads buffer) =
      if consumed (log reads buffer) = buffer then .ok ()
      else .error (.lengthMismatch count (count + (remaining reads buffer).length)) := by
  refine ⟨map_read_log reads buffer, ?_, consumed_append_remaining reads buffer, ?_⟩
  · intro earlier entry later logged
    obtain ⟨before, read, rfl, rfl⟩ := eq_of_log logged
    obtain ⟨split, fits⟩ := entry_accounts read (remaining before buffer)
    refine ⟨?_, fits⟩
    rw [List.append_assoc, split, consumed_append_remaining]
  · intro count
    split
    · next all =>
      rw [(remaining_eq_nil_iff reads buffer).mpr all]
      rfl
    · next some =>
      have more : remaining reads buffer ≠ [] := fun none => some ((remaining_eq_nil_iff reads buffer).mp none)
      exact Reader.finish_error.mpr ⟨more, rfl⟩

/-- A name of three bytes of which two are there loses its length, and the port is read from where the name would be. -/
theorem reads_account_for_every_byte_of_cut_name :
    log [.u8 "status", .short "name", .u16 "port", .rest] [7, 0, 3, 17, 81] =
      [⟨.u8 "status", .ok 7, [7], [0, 3, 17, 81]⟩] ++
        ⟨.short "name", .error (.truncatedField "name" 3 2), [0, 3], [17, 81]⟩ ::
          [⟨.u16 "port", .ok 4433, [17, 81], []⟩, ⟨.rest, .ok [], [], []⟩] ∧
    [7] ++ [0, 3] ++ [17, 81] = ([7, 0, 3, 17, 81] : Bytes) ∧
    (short "name").Fits (.error (.truncatedField "name" 3 2)) [0, 3] [17, 81] := by
  refine ⟨rfl, ?_⟩
  exact (reads_account_for_every_byte [.u8 "status", .short "name", .u16 "port", .rest] [7, 0, 3, 17, 81]).2.1
    [_] _ [_, _] rfl

/-! ## Readers made of reads -/

variable {read : Read} {result : Except WireError read.Value}

theorem left_of_run (taken : read.reader.run given = (result, left)) : (read.entry given).left = left :=
  congrArg Prod.snd taken

theorem remaining_of_run (taken : read.reader.run given = (result, left)) :
    remaining (read :: reads) given = remaining reads left := by
  rw [remaining_cons, left_of_run taken]

/-- All of the reads succeed. -/
def Succeed (reads : List Read) (buffer : Bytes) : Prop :=
  ∀ entry ∈ log reads buffer, ∃ value, entry.result = .ok value

theorem succeed_nil : Succeed [] buffer :=
  fun _ member => absurd member List.not_mem_nil

theorem succeed_of_run {value : read.Value} (taken : read.reader.run given = (.ok value, left))
    (others : Succeed reads left) : Succeed (read :: reads) given := by
  rw [Succeed, log_cons, List.forall_mem_cons, left_of_run taken]
  exact ⟨⟨value, congrArg Prod.fst taken⟩, others⟩

end Read

namespace Reader

open Read (log consumed Succeed)

variable {α : Type} {reader : Reader α} {reads : List Read}

/-- The reader makes the reads in order until one of them fails, and then fails as that one did. -/
def Makes (reader : Reader α) (reads : List Read) : Prop :=
  ∀ given, match reader.run given with
    | (.ok _, left) => Succeed reads given ∧ left = Read.remaining reads given
    | (.error error, left) => ∃ before failing after, reads = before ++ failing :: after ∧
        Succeed before given ∧ failing.reader.run (Read.remaining before given) = (.error error, left)

namespace Makes

theorem pure (value : α) : (pure value : Reader α).Makes [] :=
  fun _ => ⟨Read.succeed_nil, rfl⟩

/-- A read and then a reader make that read and the reads of the other. -/
theorem bind (read : Read) {next : read.Value → Reader α} (others : ∀ value, (next value).Makes reads) :
    (read.reader >>= next).Makes (read :: reads) := by
  intro given
  rw [run_bind]
  cases taken : read.reader.run given with
  | mk result middle =>
    cases result with
    | error error => exact ⟨[], read, reads, rfl, Read.succeed_nil, taken⟩
    | ok value =>
      -- The other reader goes on with what the first read left, and so do its reads.
      have later := others value middle
      dsimp only
      cases ran : (next value).run middle with
      | mk result left =>
        rw [ran] at later
        cases result with
        | ok _ =>
          obtain ⟨succeed, rest⟩ := later
          exact ⟨Read.succeed_of_run taken succeed, rest.trans (Read.remaining_of_run taken).symm⟩
        | error error =>
          obtain ⟨before, failing, after, rfl, succeed, failed⟩ := later
          refine ⟨read :: before, failing, after, rfl, Read.succeed_of_run taken succeed, ?_⟩
          rw [Read.remaining_of_run taken]
          exact failed

/-- What a reader leaves and what its reads consumed are what it was given, also if it fails. -/
theorem exists_made (makes : reader.Makes reads) (given : Bytes) : ∃ made unmade, reads = made ++ unmade ∧
    consumed (log made given) ++ (reader.run given).2 = given := by
  have made := makes given
  cases ran : reader.run given with
  | mk result left =>
    rw [ran] at made
    cases result with
    | ok _ =>
      obtain ⟨_, rfl⟩ := made
      exact ⟨reads, [], (List.append_nil reads).symm, Read.consumed_append_remaining reads given⟩
    | error error =>
      obtain ⟨before, failing, after, rfl, _, failed⟩ := made
      have rest : Read.remaining (before ++ [failing]) given = left := by
        rw [Read.remaining, List.foldl_append]
        exact congrArg Prod.snd failed
      refine ⟨before ++ [failing], after, by simp, ?_⟩
      exact rest ▸ Read.consumed_append_remaining (before ++ [failing]) given

end Makes

end Reader

namespace NodeDescription

/-- The reads of a description, in order. -/
def reads : List Read :=
  [.u16 "port", .u8 "node type", .u8 "protocol", .u16 "highest version", .u16 "lowest version", .short "name",
    .short "extra"]

theorem makes_reads : reader.Makes reads :=
  .bind (.u16 "port") fun _ => .bind (.u8 "node type") fun _ => .bind (.u8 "protocol") fun _ =>
    .bind (.u16 "highest version") fun _ => .bind (.u16 "lowest version") fun _ =>
      .bind (.short "name") fun _ => .bind (.short "extra") fun _ => .pure _

/-- What is accounted for when a description was read is what its reads consumed. -/
theorem length_consumed {node : NodeDescription} {given left : Bytes}
    (described : reader.run given = (.ok node, left)) :
    (Read.consumed (Read.log reads given)).length = node.wireLength := by
  have made := makes_reads given
  rw [described] at made
  obtain ⟨_, rfl⟩ := made
  obtain ⟨written, wrote, split, _⟩ := reader_ok.mp described
  have same := (Read.consumed_append_remaining reads given).trans split
  rw [List.append_cancel_right same, length_encode wrote]

end NodeDescription

end PortMapper
