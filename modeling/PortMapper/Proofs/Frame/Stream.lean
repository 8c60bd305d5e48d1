import PortMapper.Frame.Stream
import PortMapper.Proofs.Request.Fitting

/-!
# Frames, however their bytes arrive

Bytes are frames one after another and a tail in which the next frame is not complete (`exists_divides`). On a
stream that neither fails nor ends early, filling takes the first unread bytes, in whatever chunks they come
(`Stream.fill_of_orderly`), so the frame in front is read and the bytes behind it stay (`readFrom_of_whole`), or
there is only a tail and the shortage of it is reported (`readFrom_of_short`). All frames are read one after
another, and then the shortage ends reading (`frames_are_read_however_they_arrive`).
-/

namespace PortMapper

/-! ## Orderly streams -/

/-- A chunk that brings bytes, or nothing yet. -/
def Chunk.Orderly : Chunk → Prop
  | .data bytes => bytes ≠ []
  | .pending => True
  | .failure _ => False

instance (chunk : Chunk) : Decidable chunk.Orderly :=
  match chunk with
  | .data bytes => inferInstanceAs (Decidable (bytes ≠ []))
  | .pending => .isTrue trivial
  | .failure _ => .isFalse id

theorem Chunk.Orderly.ne_empty {chunk : Chunk} (orderly : chunk.Orderly) : chunk ≠ .data [] := by
  rintro rfl
  exact orderly rfl

namespace Stream

variable {stream left : Stream} {count : Nat} {bytes : Bytes}

/-- The stream does not fail, and no read of it comes back without bytes before its end. -/
def Orderly (stream : Stream) : Prop :=
  ∀ chunk ∈ stream, chunk.Orderly

instance (stream : Stream) : Decidable stream.Orderly :=
  inferInstanceAs (Decidable (∀ chunk ∈ stream, chunk.Orderly))

theorem unread_pending (rest : Stream) : unread (.pending :: rest) = unread rest := rfl

theorem unread_data (bytes : Bytes) (rest : Stream) : unread (.data bytes :: rest) = bytes ++ unread rest :=
  List.flatMap_cons

/-- Filling from an orderly stream takes the first bytes that are unread. -/
theorem fill_of_orderly (count : Nat) (orderly : stream.Orderly) :
    ∃ left, stream.fill count = (.ok (stream.unread.take count), left) ∧ left.Orderly ∧
      left.unread = stream.unread.drop count := by
  fun_induction fill count stream with
  | case1 stream => exact ⟨stream, rfl, orderly, rfl⟩
  | case2 count => exact ⟨[], rfl, orderly, rfl⟩
  | case3 count rest ih =>
    rw [unread_pending]
    exact ih (List.forall_mem_cons.mp orderly).2
  | case4 count cause rest => exact absurd (List.forall_mem_cons.mp orderly).1 id
  | case5 count bytes rest empty =>
    exact absurd (List.isEmpty_iff.mp empty) (List.forall_mem_cons.mp orderly).1
  | case6 count bytes rest _ fits more left filled ih =>
    -- The whole chunk is taken, and the next ones make up the rest.
    obtain ⟨_, same, orderly, remains⟩ := ih (List.forall_mem_cons.mp orderly).2
    cases filled.symm.trans same
    rw [unread_data, List.take_append, List.drop_append, List.take_of_length_le fits,
      List.drop_eq_nil_of_le fits]
    exact ⟨left, rfl, orderly, remains⟩
  | case7 count bytes rest _ longer =>
    have enough := Nat.le_of_lt (Nat.lt_of_not_le longer)
    obtain ⟨_, orderly⟩ := List.forall_mem_cons.mp orderly
    have remains : bytes.drop (count + 1) ≠ [] := by
      rw [ne_eq, List.drop_eq_nil_iff]
      exact longer
    rw [unread_data, List.take_append_of_le_length enough, List.drop_append_of_le_length enough]
    exact ⟨_, rfl, List.forall_mem_cons.mpr ⟨remains, orderly⟩, unread_data _ _⟩

/-- A chunk that is not too long is taken as a whole. -/
theorem fill_data (brings : bytes ≠ []) (fits : bytes.length ≤ count + 1) (rest : Stream) :
    fill (count + 1) (.data bytes :: rest) =
      ((fill (count + 1 - bytes.length) rest).1.map (bytes ++ ·), (fill (count + 1 - bytes.length) rest).2) := by
  rw [fill, if_neg (mt List.isEmpty_iff.mp brings), if_pos fits]

/-- Filling from a stream that fails behind some bytes takes the first of these if they are enough, and fails
otherwise. -/
theorem fill_append_failure (count : Nat) (orderly : stream.Orderly) (cause : String) (later : Stream) :
    ∃ left, (stream ++ .failure cause :: later).fill count =
      (if count ≤ stream.unread.length then .ok (stream.unread.take count) else .error cause, left) := by
  induction stream generalizing count with
  | nil => cases count <;> exact ⟨_, rfl⟩
  | cons chunk rest ih =>
    obtain ⟨first, others⟩ := List.forall_mem_cons.mp orderly
    cases count with
    | zero => exact ⟨_, congrArg (·, _) (if_pos (Nat.zero_le _)).symm⟩
    | succ count =>
      cases chunk with
      | pending => exact ih (count + 1) others
      | failure cause => exact absurd first id
      | data bytes =>
        rw [List.cons_append, unread_data, List.length_append]
        by_cases fits : bytes.length ≤ count + 1
        · obtain ⟨left, filled⟩ := ih (count + 1 - bytes.length) others
          rw [fill_data first fits, filled, List.take_append, List.take_of_length_le fits]
          refine ⟨left, congrArg (·, left) ?_⟩
          by_cases enough : count + 1 ≤ bytes.length + (unread rest).length
          · rw [if_pos (Nat.sub_le_iff_le_add'.mpr enough), if_pos enough]
            rfl
          · rw [if_neg (mt Nat.sub_le_iff_le_add'.mp enough), if_neg enough]
            rfl
        · have longer := Nat.le_of_lt (Nat.lt_of_not_le fits)
          rw [fill, if_neg (mt List.isEmpty_iff.mp first), if_neg fits, if_pos (Nat.le_add_right_of_le longer),
            List.take_append_of_le_length longer]
          exact ⟨_, rfl⟩

/-- Draining an orderly stream takes all bytes that are unread. -/
theorem drain_of_orderly (orderly : stream.Orderly) : stream.drain = .ok stream.unread := by
  fun_induction drain stream with
  | case1 => rfl
  | case2 rest ih => exact ih (List.forall_mem_cons.mp orderly).2
  | case3 cause rest => exact absurd (List.forall_mem_cons.mp orderly).1 id
  | case4 bytes rest empty => exact absurd (List.isEmpty_iff.mp empty) (List.forall_mem_cons.mp orderly).1
  | case5 bytes rest _ ih =>
    rw [ih (List.forall_mem_cons.mp orderly).2, unread_data]
    rfl

/-- A stream that can be drained does not fail. -/
theorem orderly_of_drain (flows : ∀ chunk ∈ stream, chunk ≠ .data []) (drained : stream.drain = .ok bytes) :
    stream.Orderly := by
  fun_induction drain stream generalizing bytes with
  | case1 => exact List.forall_mem_nil _
  | case2 rest ih =>
    exact List.forall_mem_cons.mpr ⟨trivial, ih (List.forall_mem_cons.mp flows).2 drained⟩
  | case3 cause rest => cases drained
  | case4 bytes rest empty =>
    exact absurd (congrArg Chunk.data (List.isEmpty_iff.mp empty)) (List.forall_mem_cons.mp flows).1
  | case5 bytes rest brings ih =>
    cases more : drain rest with
    | error cause =>
      rw [more] at drained
      cases drained
    | ok others =>
      exact List.forall_mem_cons.mpr ⟨mt List.isEmpty_iff.mpr brings, ih (List.forall_mem_cons.mp flows).2 more⟩

/-- No more is filled than was asked for, whatever the stream is. -/
theorem length_le_of_fill (filled : stream.fill count = (.ok bytes, left)) : bytes.length ≤ count := by
  fun_induction fill count stream generalizing bytes left with
  | case1 stream => cases filled; exact Nat.le_refl 0
  | case2 count => cases filled; exact Nat.zero_le _
  | case3 count rest ih => exact ih filled
  | case4 count cause rest => cases filled
  | case5 count bytes rest empty => cases filled; exact Nat.zero_le _
  | case6 count bytes rest _ fits more left same ih =>
    cases more with
    | error cause => cases filled
    | ok more =>
      cases filled
      have bound := ih same
      rw [List.length_append]
      omega
  | case7 count bytes rest _ longer =>
    cases filled
    exact List.length_take_le _ _

end Stream

namespace Frame

variable {stream left : Stream} {frame rest tail : Bytes} {frames : List Bytes} {count : Nat}

/-! ## Frames and tails -/

/-- A length, and as many bytes as it declares. -/
def Whole (frame : Bytes) : Prop :=
  ∃ high low body, frame = high :: low :: body ∧ (BigEndian.toUInt16 high low).toNat = body.length

/-- No frame is complete in the bytes. -/
def Short (bytes : Bytes) : Prop :=
  ∀ high low rest, bytes = high :: low :: rest → rest.length < (BigEndian.toUInt16 high low).toNat

/-- What is reported if the bytes are too short for a frame and no others come. -/
def shortage : Bytes → FrameError
  | [] => .closed
  | [_] => .wire (.truncatedField "length" 2 1)
  | high :: low :: rest => .wire (.lengthMismatch (BigEndian.toUInt16 high low).toNat rest.length)

/-- The bytes are the frames, one after another, and a tail in which no other frame is complete. -/
structure Divides (bytes : Bytes) (frames : List Bytes) (tail : Bytes) : Prop where
  whole : ∀ frame ∈ frames, Whole frame
  short : Short tail
  joined : bytes = frames.flatten ++ tail

/-- Either no frame is complete, or one stands in front. -/
theorem short_or_whole (bytes : Bytes) : Short bytes ∨ ∃ frame rest, Whole frame ∧ bytes = frame ++ rest := by
  cases bytes with
  | nil => exact .inl nofun
  | cons high bytes =>
    cases bytes with
    | nil => exact .inl nofun
    | cons low bytes =>
      rcases Nat.lt_or_ge bytes.length (BigEndian.toUInt16 high low).toNat with short | enough
      · refine .inl ?_
        rintro _ _ _ ⟨⟩
        exact short
      · let declared := (BigEndian.toUInt16 high low).toNat
        refine .inr ⟨high :: low :: bytes.take declared, bytes.drop declared, ⟨high, low, _, rfl, ?_⟩, ?_⟩
        · exact (List.length_take_of_le enough).symm
        · rw [List.cons_append, List.cons_append, List.take_append_drop]

/-- All bytes are frames and a tail. -/
theorem exists_divides (bytes : Bytes) : ∃ frames tail, Divides bytes frames tail := by
  induction size : bytes.length using Nat.strongRecOn generalizing bytes with
  | ind _ ih =>
    rcases short_or_whole bytes with short | ⟨frame, rest, whole, rfl⟩
    · exact ⟨[], bytes, nofun, short, rfl⟩
    · have shorter : rest.length < (frame ++ rest).length := by
        obtain ⟨high, low, body, rfl, _⟩ := whole
        simp only [List.length_append, List.length_cons]
        omega
      obtain ⟨frames, tail, divides⟩ := ih _ (size ▸ shorter) rest rfl
      refine ⟨frame :: frames, tail, List.forall_mem_cons.mpr ⟨whole, divides.whole⟩, divides.short, ?_⟩
      rw [divides.joined, List.flatten_cons, List.append_assoc]

/-! ## Reading one frame -/

/-- A frame in front of the unread bytes is read, and what follows it stays. -/
theorem readFrom_of_whole (orderly : stream.Orderly) (whole : Whole frame) (front : stream.unread = frame ++ rest) :
    ∃ left, readFrom stream = (.ok frame, left) ∧ left.Orderly ∧ left.unread = rest := by
  obtain ⟨high, low, body, rfl, declared⟩ := whole
  obtain ⟨middle, lengthField, orderly, behind⟩ := Stream.fill_of_orderly prefixLength orderly
  rw [front] at lengthField behind
  obtain ⟨left, filled, orderly, remains⟩ :=
    Stream.fill_of_orderly (BigEndian.toUInt16 high low).toNat orderly
  have bytes : middle.unread = body ++ rest := behind
  rw [bytes, declared, List.take_left] at filled
  rw [bytes, declared, List.drop_left] at remains
  refine ⟨left, ?_, orderly, remains⟩
  unfold readFrom
  rw [lengthField]
  show readBody [high, low] (BigEndian.toUInt16 high low).toNat middle = (.ok (high :: low :: body), left)
  rw [readBody, declared, filled]
  show (if body.length < body.length then _ else (Except.ok ([high, low] ++ body), left)) = _
  rw [if_neg (Nat.lt_irrefl _)]
  rfl

/-- If no frame is complete in the unread bytes, reading reports the shortage and nothing stays. -/
theorem readFrom_of_short (orderly : stream.Orderly) (short : Short stream.unread) :
    ∃ left, readFrom stream = (.error (shortage stream.unread), left) ∧ left.unread = [] := by
  obtain ⟨middle, lengthField, orderly, behind⟩ := Stream.fill_of_orderly prefixLength orderly
  cases bytes : stream.unread with
  | nil =>
    rw [bytes] at lengthField behind
    refine ⟨middle, ?_, behind⟩
    rw [readFrom, lengthField]
    rfl
  | cons high rest =>
    cases rest with
    | nil =>
      rw [bytes] at lengthField behind
      refine ⟨middle, ?_, behind⟩
      rw [readFrom, lengthField]
      rfl
    | cons low rest =>
      have missing := short high low rest bytes
      rw [bytes] at lengthField behind
      have unread : middle.unread = rest := behind
      obtain ⟨left, filled, _, remains⟩ :=
        Stream.fill_of_orderly (BigEndian.toUInt16 high low).toNat orderly
      rw [unread, List.take_of_length_le (Nat.le_of_lt missing)] at filled
      rw [unread, List.drop_eq_nil_of_le (Nat.le_of_lt missing)] at remains
      refine ⟨left, ?_, remains⟩
      rw [readFrom, lengthField]
      show readBody [high, low] (BigEndian.toUInt16 high low).toNat middle = _
      rw [readBody, filled]
      exact if_pos missing

/-- What is read as a frame is one, whatever the stream is. -/
theorem whole_of_readFrom (read : readFrom stream = (.ok frame, left)) : Whole frame := by
  unfold readFrom at read
  split at read
  · cases read
  · cases read
  · next high low middle _ =>
    unfold readBody at read
    split at read
    · cases read
    · next body left filled =>
      have bound := Stream.length_le_of_fill filled
      split at read
      · cases read
      · next enough =>
        cases read
        exact ⟨high, low, body, rfl, Nat.le_antisymm (Nat.le_of_not_lt enough) bound⟩
  · cases read

/-- A frame is never blamed for its length. -/
theorem split_of_whole (whole : Whole frame) (declared available : Nat) :
    split frame ≠ .error (.lengthMismatch declared available) := by
  obtain ⟨high, low, body, rfl, same⟩ := whole
  have field : (Reader.u16 "length").run (high :: low :: body) = (.ok (BigEndian.toUInt16 high low), body) := rfl
  have count : Reader.remaining.run body = (.ok body.length, body) := rfl
  intro blamed
  simp only [split, Reader.read, reader, Reader.run_bind, field, count, same, ne_eq, not_true_eq_false,
    if_false] at blamed
  cases body with
  | nil => cases blamed
  | cons tag body => cases blamed

/-! ## Reading all frames -/

theorem readMany_of_ok {error : Option FrameError} {later : Stream} (read : readFrom stream = (.ok frame, left))
    (more : readMany count left = (frames, error, later)) :
    readMany (count + 1) stream = (frame :: frames, error, later) := by
  rw [readMany, read]
  simp only [more]

/-- The frames in front are read in order, and the bytes behind the last one that is read stay. -/
theorem readMany_of_le (orderly : stream.Orderly) (divides : Divides stream.unread frames tail)
    (within : count ≤ frames.length) :
    ∃ left, readMany count stream = (frames.take count, none, left) ∧
      left.unread = (frames.drop count).flatten ++ tail := by
  obtain ⟨whole, short, joined⟩ := divides
  induction frames generalizing stream count with
  | nil =>
    cases Nat.le_zero.mp within
    exact ⟨stream, rfl, joined⟩
  | cons frame frames ih =>
    cases count with
    | zero => exact ⟨stream, rfl, joined⟩
    | succ count =>
      obtain ⟨first, whole⟩ := List.forall_mem_cons.mp whole
      rw [List.flatten_cons, List.append_assoc] at joined
      obtain ⟨middle, read, orderly, behind⟩ := readFrom_of_whole orderly first joined
      obtain ⟨left, more, remains⟩ := ih orderly (Nat.le_of_succ_le_succ within) whole behind
      exact ⟨left, readMany_of_ok read more, remains⟩

/-- Behind the last frame the shortage of the tail ends reading. -/
theorem readMany_of_lt (orderly : stream.Orderly) (divides : Divides stream.unread frames tail)
    (beyond : frames.length < count) :
    ∃ left, readMany count stream = (frames, some (shortage tail), left) ∧ left.unread = [] := by
  obtain ⟨whole, short, joined⟩ := divides
  induction frames generalizing stream count with
  | nil =>
    obtain ⟨count, rfl⟩ := Nat.exists_eq_add_one_of_ne_zero (Nat.ne_of_gt beyond)
    have same : stream.unread = tail := joined
    obtain ⟨left, failed, remains⟩ := readFrom_of_short orderly (same ▸ short)
    refine ⟨left, ?_, remains⟩
    rw [readMany, failed, same]
  | cons frame frames ih =>
    obtain ⟨count, rfl⟩ := Nat.exists_eq_add_one_of_ne_zero (Nat.ne_of_gt (Nat.zero_lt_of_lt beyond))
    obtain ⟨first, whole⟩ := List.forall_mem_cons.mp whole
    rw [List.flatten_cons, List.append_assoc] at joined
    obtain ⟨middle, read, orderly, behind⟩ := readFrom_of_whole orderly first joined
    obtain ⟨left, more, remains⟩ := ih orderly (Nat.lt_of_succ_lt_succ beyond) whole behind
    exact ⟨left, readMany_of_ok read more, remains⟩

theorem whole_of_mem_readMany (member : frame ∈ (readMany count stream).1) : Whole frame := by
  induction count generalizing stream with
  | zero => cases member
  | succ count ih =>
    rw [readMany] at member
    split at member
    · cases member
    · next first left read =>
      rcases List.mem_cons.mp member with rfl | later
      · exact whole_of_readFrom read
      · exact ih later

/-! ## Requests on a stream -/

theorem whole_of_encode {request : Request} (wrote : request.encode = .ok frame) : Whole frame := by
  obtain ⟨high, low, body, rfl, size⟩ := Request.prefix_of_encode wrote
  refine ⟨high, low, body, rfl, ?_⟩
  rw [List.length_cons, List.length_cons] at size
  omega

/-- The frames of some requests are whole, and read as these requests, each code under its name. -/
theorem whole_and_decode_of_encode {requests : List Request}
    (wrote : requests.map Request.encode = frames.map .ok) :
    (∀ frame ∈ frames, Whole frame) ∧
      frames.map Request.decode = requests.map fun request => .ok request.normalise := by
  induction requests generalizing frames with
  | nil =>
    cases List.map_eq_nil_iff.mp wrote.symm
    exact ⟨nofun, rfl⟩
  | cons request requests ih =>
    cases frames with
    | nil => cases wrote
    | cons frame frames =>
      obtain ⟨first, others⟩ := List.cons.inj wrote
      obtain ⟨whole, read⟩ := ih others
      refine ⟨List.forall_mem_cons.mpr ⟨whole_of_encode first, whole⟩, ?_⟩
      rw [List.map_cons, List.map_cons, Request.decode_of_encode first, read]

/-- Any bytes are frames and a tail. However they arrive on a stream that neither fails nor ends early, the frames
are read in order, each leaves the bytes behind it, and then the tail ends reading: with no bytes the stream is
closed, with one byte the length is cut short, and otherwise the declared length is blamed. So the frames of some
requests are read one after another and read as these requests, each code under its name. Whatever the stream does,
no frame that is read from it is blamed for its length. -/
theorem frames_are_read_however_they_arrive :
    (∀ bytes, ∃ frames tail, Divides bytes frames tail) ∧
    (∀ (stream : Stream) frames tail, stream.Orderly → Divides stream.unread frames tail →
      (∀ count ≤ frames.length, ∃ left, readMany count stream = (frames.take count, none, left) ∧
        left.unread = (frames.drop count).flatten ++ tail) ∧
      (∀ count > frames.length, ∃ left, readMany count stream = (frames, some (shortage tail), left) ∧
        left.unread = [])) ∧
    (∀ (stream : Stream) (requests : List Request) frames, stream.Orderly → stream.unread = frames.flatten →
      requests.map Request.encode = frames.map .ok →
      (∃ left, readMany (requests.length + 1) stream = (frames, some .closed, left)) ∧
      frames.map Request.decode = requests.map fun request => .ok request.normalise) ∧
    (∀ stream count, ∀ frame ∈ (readMany count stream).1, ∀ declared available,
      split frame ≠ .error (.lengthMismatch declared available)) := by
  refine ⟨exists_divides, fun stream frames tail orderly divides => ⟨?_, ?_⟩, ?_, ?_⟩
  · intro count within
    exact readMany_of_le orderly divides within
  · intro count beyond
    exact readMany_of_lt orderly divides beyond
  · intro stream requests frames orderly joined wrote
    obtain ⟨whole, decoded⟩ := whole_and_decode_of_encode wrote
    have divides : Divides stream.unread frames [] := ⟨whole, nofun, by rw [joined, List.append_nil]⟩
    have beyond : frames.length < requests.length + 1 := by
      have size : requests.length = frames.length := by simpa using congrArg List.length wrote
      rw [size]
      exact Nat.lt_succ_self _
    obtain ⟨left, read, _⟩ := readMany_of_lt orderly divides beyond
    exact ⟨⟨left, read⟩, decoded⟩
  · intro stream count frame member
    exact split_of_whole (whole_of_mem_readMany member)

/-- A lookup and a names request, in chunks that end inside a length, inside a body and between a length and
its body. -/
def pieces : Stream :=
  [.data [0], .pending, .data [2, 122], .data [97, 0, 1], .pending, .data [110]]

/-- Both requests are read from the pieces, alone and in front of half a length. -/
theorem frames_are_read_however_they_arrive_of_pieces :
    (∃ left, readMany 3 pieces = ([[0, 2, 122, 97], [0, 1, 110]], some .closed, left)) ∧
    [[0, 2, 122, 97], [0, 1, 110]].map Request.decode = [.ok (.nodeInfo ['a']), .ok .names] ∧
    (∃ left, readMany 1 (pieces ++ [.data [0]]) = ([[0, 2, 122, 97]], none, left) ∧
      left.unread = [0, 1, 110, 0]) ∧
    (∃ left, readMany 3 (pieces ++ [.data [0]]) =
        ([[0, 2, 122, 97], [0, 1, 110]], some (.wire (.truncatedField "length" 2 1)), left) ∧
      left.unread = []) := by
  obtain ⟨_, reads, requests, _⟩ := frames_are_read_however_they_arrive
  have divides : Divides (Stream.unread (pieces ++ [.data [0]])) [[0, 2, 122, 97], [0, 1, 110]] [0] := by
    refine ⟨List.forall_mem_cons.mpr ⟨?_, List.forall_mem_singleton.mpr ?_⟩, nofun, rfl⟩
    · exact ⟨0, 2, [122, 97], rfl, rfl⟩
    · exact ⟨0, 1, [110], rfl, rfl⟩
  obtain ⟨within, beyond⟩ := reads (pieces ++ [.data [0]]) _ _ (by decide) divides
  obtain ⟨closed, decoded⟩ :=
    requests pieces [.nodeInfo ['a'], .names] [[0, 2, 122, 97], [0, 1, 110]] (by decide) rfl rfl
  exact ⟨closed, decoded, within 1 (by decide), beyond 3 (by decide)⟩

end Frame

end PortMapper
