import PortMapper.Request
import PortMapper.Proofs.Request.Description
import PortMapper.Proofs.Request.Frame

/-!
# One frame for each request

Bytes read as a request exactly if they are its frame, so nothing else is accepted and no two frames mean the
same (`decode_ok`). Reading a frame as one kind of request accepts the requests of that kind (`decodeAs_ok`),
and blames the tag of every frame that is well delimited and has another one (`decodeAs_unexpectedTag`).
-/

namespace PortMapper

namespace RequestKind

theorem ofTag?_eq_some {tag : Tag} {kind : RequestKind} : ofTag? tag = some kind ↔ tag = kind.tag := by
  constructor
  · intro known
    unfold ofTag? at known
    split at known <;> cases known <;> rfl
  · rintro rfl
    exact ofTag?_tag kind

theorem tag_inj {kind other : RequestKind} : kind.tag = other.tag ↔ kind = other := by
  constructor
  · intro same
    rw [← Option.some.injEq, ← ofTag?_tag kind, same, ofTag?_tag]
  · exact congrArg RequestKind.tag

@[simp] theorem ofByte_toByte_tag (kind : RequestKind) : Tag.ofByte kind.tag.toByte = kind.tag := by
  cases kind <;> rfl

end RequestKind

namespace Request

variable {kind : RequestKind} {request : Request} {tag : Tag} {frame body : Bytes}

@[simp] theorem normalise_normalise (request : Request) :
    request.normalise.normalise = request.normalise := by
  cases request <;> simp [normalise]

theorem encode_normalise (request : Request) : request.normalise.encode = request.encode := by
  cases request with
  | registration node => simp only [normalise, encode, encodeBody, tag, Request.kind, node.encode_normalise]
  | nodeInfo | names | dump | kill | stop => rfl

/-! ## Bodies -/

theorem read_finish {expected : Request} :
    (do Reader.finish 0; return expected : Reader Request).read body = .ok request ↔
      body = [] ∧ expected = request := by
  simp only [Reader.read_ok, Reader.bind_ok, Reader.finish_ok, Reader.pure_ok]
  constructor
  · rintro ⟨_, _, _, ⟨rfl, rfl⟩, rfl, rfl⟩
    exact ⟨rfl, rfl⟩
  · rintro ⟨rfl, rfl⟩
    exact ⟨[], (), [], ⟨rfl, rfl⟩, rfl, rfl⟩

theorem read_name {build : Text → Request} :
    (do return build (Text.Latin1.decode (← Reader.rest)) : Reader Request).read body = .ok request ↔
      ∃ name, Text.Latin1.encode "name" name = .ok body ∧ build name = request := by
  simp only [Reader.read_ok, Reader.bind_ok, Reader.rest_ok, Reader.pure_ok]
  constructor
  · rintro ⟨_, content, _, ⟨rfl, rfl⟩, rfl, rfl⟩
    exact ⟨_, Text.Latin1.encode_decode "name" body, rfl⟩
  · rintro ⟨name, wrote, rfl⟩
    exact ⟨[], body, [], ⟨rfl, rfl⟩, by rw [Text.Latin1.decode_encode wrote], rfl⟩

theorem read_registration :
    (bodyReader .registration).read body = .ok request ↔
      ∃ node, node.encode = .ok body ∧ node.normalise = node ∧ registration node = request := by
  simp only [bodyReader, Reader.read_ok, Reader.bind_ok, NodeDescription.reader_ok, Reader.finish_ok,
    Reader.pure_ok]
  constructor
  · rintro ⟨_, node, _, ⟨written, wrote, rfl, named⟩, _, _, ⟨rfl, rfl⟩, rfl, rfl⟩
    rw [List.append_nil]
    exact ⟨node, wrote, named, rfl⟩
  · rintro ⟨node, wrote, named, rfl⟩
    exact ⟨[], node, [], ⟨body, wrote, (List.append_nil body).symm, named⟩, (), [], ⟨rfl, rfl⟩, rfl, rfl⟩

/-- A body reads as a request exactly if it is the body that the request has. -/
theorem bodyReader_ok :
    (bodyReader kind).read body = .ok request ↔
      request.kind = kind ∧ request.encodeBody = .ok body ∧ request.normalise = request := by
  constructor
  · intro read
    cases kind with
    | registration =>
      obtain ⟨node, wrote, named, rfl⟩ := read_registration.mp read
      exact ⟨rfl, wrote, congrArg registration named⟩
    | nodeInfo | stop =>
      obtain ⟨name, wrote, rfl⟩ := read_name.mp read
      exact ⟨rfl, wrote, rfl⟩
    | names | dump | kill =>
      obtain ⟨rfl, rfl⟩ := read_finish.mp read
      exact ⟨rfl, rfl, rfl⟩
  · rintro ⟨rfl, wrote, named⟩
    cases request with
    | registration node =>
      exact read_registration.mpr ⟨node, wrote, registration.inj named, rfl⟩
    | nodeInfo name | stop name => exact read_name.mpr ⟨name, wrote, rfl⟩
    | names | dump | kill =>
      cases wrote
      exact read_finish.mpr ⟨rfl, rfl⟩

theorem untagged_bodyReader (kind : RequestKind) : (bodyReader kind).Untagged := by
  cases kind with
  | registration =>
    exact Reader.untagged_bind NodeDescription.untagged_reader fun _ =>
      Reader.untagged_bind (Reader.untagged_finish _) fun _ => Reader.untagged_pure _
  | nodeInfo | stop => exact Reader.untagged_bind Reader.untagged_rest fun _ => Reader.untagged_pure _
  | names | dump | kill =>
    exact Reader.untagged_bind (Reader.untagged_finish 0) fun _ => Reader.untagged_pure _

/-! ## Frames -/

theorem encode_ok :
    request.encode = .ok frame ↔
      ∃ body, request.encodeBody = .ok body ∧ Frame.Delimits frame request.tag.toByte body := by
  simp only [encode, bind_eq_ok, ← Frame.write_ofByte, tag, RequestKind.ofByte_toByte_tag]

theorem decodeBody_ok :
    decodeBody tag body = .ok request ↔
      request.tag = tag ∧ request.encodeBody = .ok body ∧ request.normalise = request := by
  unfold decodeBody
  split
  · next kind known =>
    rw [RequestKind.ofTag?_eq_some] at known
    rw [bodyReader_ok, known, Request.tag, RequestKind.tag_inj]
  · next unknown =>
    constructor
    · intro decoded
      cases decoded
    · rintro ⟨rfl, _⟩
      rw [Request.tag, RequestKind.ofTag?_tag] at unknown
      cases unknown

theorem decode_of_split (parts : Frame.split frame = .ok (tag, body)) :
    decode frame = decodeBody tag body := by
  rw [decode, parts]
  rfl

theorem decodeAs_of_split (parts : Frame.split frame = .ok (tag, body)) :
    decodeAs kind frame =
      if tag = kind.tag then (bodyReader kind).read body
      else .error (.unexpectedTag kind.tag tag) := by
  rw [decodeAs, parts]
  rfl

/-- A frame reads as a request exactly if it is the frame of the request, and each code in the request is
under its name. -/
theorem decode_ok :
    decode frame = .ok request ↔ request.encode = .ok frame ∧ request.normalise = request := by
  rw [encode_ok]
  constructor
  · intro decoded
    obtain ⟨⟨tag, body⟩, parts, _⟩ := bind_eq_ok.mp decoded
    rw [decode_of_split parts, decodeBody_ok] at decoded
    obtain ⟨same, wrote, named⟩ := decoded
    obtain ⟨byte, delimits, rfl⟩ := Frame.split_ok.mp parts
    refine ⟨⟨body, wrote, ?_⟩, named⟩
    rw [same, Tag.toByte_ofByte]
    exact delimits
  · rintro ⟨⟨body, wrote, delimits⟩, named⟩
    have parts : Frame.split frame = .ok (request.tag, body) :=
      Frame.split_ok.mpr ⟨_, delimits, RequestKind.ofByte_toByte_tag request.kind⟩
    rw [decode_of_split parts]
    exact decodeBody_ok.mpr ⟨rfl, wrote, named⟩

/-- Reading a frame as one kind of request reads the requests of that kind. -/
theorem decodeAs_ok :
    decodeAs kind frame = .ok request ↔ decode frame = .ok request ∧ request.kind = kind := by
  constructor
  · intro decoded
    obtain ⟨⟨tag, body⟩, parts, _⟩ := bind_eq_ok.mp decoded
    rw [decodeAs_of_split parts] at decoded
    rw [decode_of_split parts]
    split at decoded
    · next expected =>
      obtain ⟨rfl, wrote, named⟩ := bodyReader_ok.mp decoded
      exact ⟨decodeBody_ok.mpr ⟨expected.symm, wrote, named⟩, rfl⟩
    · cases decoded
  · rintro ⟨decoded, rfl⟩
    obtain ⟨⟨tag, body⟩, parts, _⟩ := bind_eq_ok.mp decoded
    rw [decode_of_split parts, decodeBody_ok] at decoded
    obtain ⟨same, wrote, named⟩ := decoded
    rw [decodeAs_of_split parts, ← same, Request.tag, if_pos rfl]
    exact bodyReader_ok.mpr ⟨rfl, wrote, named⟩

/-- Reading a frame as one kind of request fails on the tag exactly if the frame is well delimited and its tag
is another one. -/
theorem decodeAs_unexpectedTag {expected found : Tag} :
    decodeAs kind frame = .error (.unexpectedTag expected found) ↔
      kind.tag = expected ∧ ∃ byte body, Frame.Delimits frame byte body ∧ Tag.ofByte byte = found ∧
        byte ≠ kind.tag.toByte := by
  constructor
  · intro failed
    cases parts : Frame.split frame with
    | error error =>
      rw [decodeAs, parts] at failed
      cases failed
      exact absurd parts Frame.untagged_reader.read
    | ok separated =>
      obtain ⟨tag, body⟩ := separated
      rw [decodeAs_of_split parts] at failed
      split at failed
      · exact absurd failed (untagged_bodyReader kind).read
      · next other =>
        cases failed
        obtain ⟨byte, delimits, rfl⟩ := Frame.split_ok.mp parts
        refine ⟨rfl, byte, body, delimits, rfl, ?_⟩
        rintro rfl
        exact other (RequestKind.ofByte_toByte_tag kind)
  · rintro ⟨rfl, byte, body, delimits, rfl, other⟩
    rw [decodeAs_of_split (Frame.split_ok.mpr ⟨byte, delimits, rfl⟩), if_neg]
    intro same
    rw [← same, Tag.toByte_ofByte] at other
    exact other rfl

/-! ## The code of requests -/

/-- A frame reads as a request exactly if some request is written as it, and the request that is read is
written as the very frame. Reading it as one kind of request gives the same, and fails on the tag exactly if the
frame is well delimited and its tag is another one. -/
theorem request_has_one_frame (frame : Bytes) :
    ((∃ request, decode frame = .ok request) ↔ ∃ request, encode request = .ok frame) ∧
    (∀ request, decode frame = .ok request ↔
      request.encode = .ok frame ∧ request.normalise = request) ∧
    (∀ kind request, decodeAs kind frame = .ok request ↔
      decode frame = .ok request ∧ request.kind = kind) ∧
    (∀ kind expected found, decodeAs kind frame = .error (.unexpectedTag expected found) ↔
      kind.tag = expected ∧ ∃ byte body, Frame.Delimits frame byte body ∧ Tag.ofByte byte = found ∧
        byte ≠ kind.tag.toByte) := by
  refine ⟨⟨?_, ?_⟩, fun _ => decode_ok, fun _ _ => decodeAs_ok, fun _ _ _ => decodeAs_unexpectedTag⟩
  · rintro ⟨request, decoded⟩
    exact ⟨request, (decode_ok.mp decoded).1⟩
  -- What is read of the frame of a request may call its codes by other names.
  · rintro ⟨request, wrote⟩
    refine ⟨request.normalise, decode_ok.mpr ⟨?_, normalise_normalise request⟩⟩
    rw [encode_normalise, wrote]

end Request

end PortMapper
