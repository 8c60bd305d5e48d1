import PortMapper.Proofs.Request.Canonical

/-!
# Requests that can be written

A request is written exactly if its name is Latin-1 and its frame fits (`encode_cases`,
`overlong?_lengths_eq_none`). A failure names the first character that has no byte, or else the first length
that is over the limit. Writing loses nothing: what is read back is the request with each code under its name,
which is the same request unless a code that has a name was given as a bare number
(`normalise_eq_self`).
-/

namespace PortMapper

variable {field : String} {text content written body : Bytes} {length : Nat}

/-! ## Text and short fields -/

theorem Text.Latin1.length_encode {text : Text} (wrote : encode field text = .ok content) :
    content.length = text.length := by
  rw [← length_decode, decode_encode wrote]

/-- Writing a text fails at its first character that has no byte. -/
theorem Text.Latin1.encode_of_foreign {before after : Text} {c : Char}
    (clean : ∀ d ∈ before, d.toNat ≤ 0xff) (foreign : 0xff < c.toNat) :
    encode field (before ++ c :: after) = .error (.notLatin1 field c) := by
  have found : (before ++ c :: after).find? (!isLatin1 ·) = some c := by
    refine List.find?_eq_some_iff_append.mpr ⟨?_, before, after, rfl, fun d member => ?_⟩
    · simpa [isLatin1] using foreign
    · simpa [isLatin1] using clean d member
  rw [encode, found]

/-- A text is written, or has a first character without a byte. -/
theorem Text.Latin1.encode_cases (field : String) (text : Text) :
    (∃ before c after, text = before ++ c :: after ∧ (∀ d ∈ before, d.toNat ≤ 0xff) ∧ 0xff < c.toNat) ∨
      ((∀ c ∈ text, c.toNat ≤ 0xff) ∧ ∃ bytes, encode field text = .ok bytes) := by
  cases found : text.find? (!isLatin1 ·) with
  | some c =>
    obtain ⟨foreign, before, after, split, clean⟩ := List.find?_eq_some_iff_append.mp found
    refine .inl ⟨before, c, after, split, fun d member => ?_, ?_⟩
    · simpa [isLatin1] using clean d member
    · simpa [isLatin1] using foreign
  | none =>
    refine .inr ⟨by simpa [isLatin1] using found, text.map fun c => UInt8.ofNat c.toNat, ?_⟩
    rw [encode, found]

theorem shortField_ok :
    shortField field content = .ok written ↔ content.length ≤ maxShortField ∧
      written = BigEndian.ofUInt16 (UInt16.ofNat content.length) ++ content := by
  unfold shortField
  split
  · next long => simp [Nat.not_le.mpr long]
  · next fits => simp [Nat.not_lt.mp fits, eq_comm]

theorem shortField_of_le (fits : content.length ≤ maxShortField) :
    ∃ written, shortField field content = .ok written :=
  ⟨_, shortField_ok.mpr ⟨fits, rfl⟩⟩

theorem shortField_of_lt (long : maxShortField < content.length) :
    shortField field content = .error (.fieldTooLong field content.length maxShortField) :=
  if_pos long

theorem length_shortField (wrote : shortField field content = .ok written) :
    written.length = 2 + content.length := by
  obtain ⟨_, rfl⟩ := shortField_ok.mp wrote
  rw [List.length_append, BigEndian.length_ofUInt16]

/-! ## Lengths over the limit -/

/-- The first of some lengths that is over the limit. -/
def overlong? (lengths : List (String × Nat)) : Option (String × Nat) :=
  lengths.find? (maxShortField < ·.2)

theorem overlong?_cons_of_lt {lengths : List (String × Nat)} (long : maxShortField < length) :
    overlong? ((field, length) :: lengths) = some (field, length) :=
  List.find?_cons_of_pos (by simpa using long)

theorem overlong?_cons_of_le {lengths : List (String × Nat)} (fits : length ≤ maxShortField) :
    overlong? ((field, length) :: lengths) = overlong? lengths :=
  List.find?_cons_of_neg (by simpa using fits)

namespace NodeDescription

variable {node : NodeDescription}

/-- The fields of a description that have a length of their own, in the order in which they are written. -/
def fieldLengths (node : NodeDescription) : List (String × Nat) :=
  [("name", node.name.length), ("extra", node.extra.length)]

theorem length_encode (wrote : node.encode = .ok written) : written.length = node.wireLength := by
  obtain ⟨name, nameField, extraField, latin, named, added, rfl⟩ := encode_ok.mp wrote
  simp only [List.length_append, List.length_cons, BigEndian.length_ofUInt16, length_shortField named,
    length_shortField added, Text.Latin1.length_encode latin, wireLength]
  omega

/-- A description is written exactly if its name is Latin-1 and both its short fields can say how long they are. -/
theorem exists_encode : (∃ written, node.encode = .ok written) ↔
    (∀ c ∈ node.name, c.toNat ≤ 0xff) ∧ node.name.length ≤ maxShortField ∧ node.extra.length ≤ maxShortField := by
  constructor
  · rintro ⟨written, wrote⟩
    obtain ⟨name, _, _, latin, named, added, _⟩ := encode_ok.mp wrote
    obtain ⟨nameFits, _⟩ := shortField_ok.mp named
    obtain ⟨extraFits, _⟩ := shortField_ok.mp added
    rw [Text.Latin1.length_encode latin] at nameFits
    refine ⟨fun c member => ?_, nameFits, extraFits⟩
    exact of_decide_eq_true (Text.Latin1.exists_encode.mp ⟨name, latin⟩ c member)
  · rintro ⟨latin, nameFits, extraFits⟩
    have clean : ∀ c ∈ node.name, Text.Latin1.isLatin1 c = true := fun c member => decide_eq_true (latin c member)
    obtain ⟨name, wrote⟩ := Text.Latin1.exists_encode.mpr clean
    rw [← Text.Latin1.length_encode wrote] at nameFits
    exact ⟨_, encode_ok.mpr ⟨name, _, _, wrote, shortField_ok.mpr ⟨nameFits, rfl⟩,
      shortField_ok.mpr ⟨extraFits, rfl⟩, rfl⟩⟩

theorem encode_eq_bind (latin : Text.Latin1.encode "name" node.name = .ok text) :
    ∃ join : Bytes → Bytes → Bytes, node.encode = do
      let nameField ← shortField "name" text
      let extraField ← shortField "extra" node.extra
      return join nameField extraField := by
  rw [encode, latin]
  exact ⟨_, rfl⟩

/-- A description with a Latin-1 name is written, unless a field of it is over the limit. -/
theorem encode_cases (latin : Text.Latin1.encode "name" node.name = .ok text) :
    (∃ field length, overlong? node.fieldLengths = some (field, length) ∧
        node.encode = .error (.fieldTooLong field length maxShortField)) ∨
      (overlong? node.fieldLengths = none ∧ ∃ written, node.encode = .ok written) := by
  obtain ⟨join, written⟩ := encode_eq_bind latin
  rw [written, fieldLengths, ← Text.Latin1.length_encode latin]
  rcases Nat.lt_or_ge maxShortField text.length with long | fits
  · rw [shortField_of_lt long, overlong?_cons_of_lt long]
    exact .inl ⟨"name", text.length, rfl, rfl⟩
  obtain ⟨nameField, named⟩ := shortField_of_le fits
  rw [named, overlong?_cons_of_le fits]
  rcases Nat.lt_or_ge maxShortField node.extra.length with long | fits
  · rw [shortField_of_lt long, overlong?_cons_of_lt long]
    exact .inl ⟨"extra", node.extra.length, rfl, rfl⟩
  obtain ⟨extraField, added⟩ := shortField_of_le fits
  rw [added, overlong?_cons_of_le fits]
  exact .inr ⟨rfl, _, rfl⟩

end NodeDescription

/-! ## Frames -/

namespace Frame

variable {tag : Tag}

theorem write_of_lt (long : maxShortField < 1 + body.length) :
    write tag body = .error (.fieldTooLong "request" (1 + body.length) maxShortField) := by
  rw [Nat.add_comm] at long ⊢
  exact if_pos long

theorem write_of_le (fits : 1 + body.length ≤ maxShortField) : ∃ frame, write tag body = .ok frame := by
  rw [Nat.add_comm] at fits
  exact ⟨_, if_neg (Nat.not_lt.mpr fits)⟩

end Frame

namespace Request

variable {request : Request} {frame : Bytes}

/-- The name in a request, which is empty if there is none. -/
def name : Request → Text
  | registration node => node.name
  | nodeInfo name | stop name => name
  | names | dump | kill => []

/-- How many bytes of the frame follow its length: the tag and the body. -/
def frameLength : Request → Nat
  | registration node => 13 + node.name.length + node.extra.length
  | nodeInfo name | stop name => 1 + name.length
  | names | dump | kill => 1

/-- The fields in a request that have a length of their own. -/
def fieldLengths : Request → List (String × Nat)
  | registration node => node.fieldLengths
  | _ => []

/-- The lengths in a request that are limited, in the order in which they are checked. -/
def lengths (request : Request) : List (String × Nat) :=
  request.fieldLengths ++ [("request", request.frameLength)]

theorem length_encodeBody (wrote : request.encodeBody = .ok body) :
    1 + body.length = request.frameLength := by
  cases request with
  | registration node =>
    rw [NodeDescription.length_encode wrote, NodeDescription.wireLength, frameLength]
    omega
  | nodeInfo name | stop name => rw [Text.Latin1.length_encode wrote, frameLength]
  | names | dump | kill => cases wrote; rfl

theorem overlong?_lengths :
    overlong? request.lengths =
      (overlong? request.fieldLengths).or (overlong? [("request", request.frameLength)]) :=
  List.find?_append

theorem overlong?_lengths_eq_none :
    overlong? request.lengths = none ↔ request.frameLength ≤ maxShortField := by
  cases request with
  | registration node =>
    simp only [overlong?, lengths, fieldLengths, NodeDescription.fieldLengths, frameLength,
      List.find?_eq_none, List.mem_append, List.mem_cons, List.not_mem_nil, or_false, forall_eq_or_imp,
      forall_eq, or_assoc, decide_eq_true_eq, Nat.not_lt]
    omega
  | nodeInfo | stop | names | dump | kill => simp [overlong?, lengths, fieldLengths]

theorem encode_of_foreign {before after : Text} {c : Char} (split : request.name = before ++ c :: after)
    (clean : ∀ d ∈ before, d.toNat ≤ 0xff) (foreign : 0xff < c.toNat) :
    request.encode = .error (.notLatin1 "name" c) := by
  have failed : Text.Latin1.encode "name" request.name = .error (.notLatin1 "name" c) := by
    rw [split]
    exact Text.Latin1.encode_of_foreign clean foreign
  cases request with
  | registration node =>
    rw [name] at failed
    rw [encode, encodeBody, NodeDescription.encode, failed]
    rfl
  | nodeInfo text | stop text =>
    rw [name] at failed
    rw [encode, encodeBody, failed]
    rfl
  | names | dump | kill => simp [name] at split

/-- The body of a request with a Latin-1 name is written, unless a field of it is over the limit. -/
theorem encodeBody_cases (latin : Text.Latin1.encode "name" request.name = .ok text) :
    (∃ field length, overlong? request.fieldLengths = some (field, length) ∧
        request.encodeBody = .error (.fieldTooLong field length maxShortField)) ∨
      (overlong? request.fieldLengths = none ∧ ∃ body, request.encodeBody = .ok body) := by
  cases request with
  | registration node => exact NodeDescription.encode_cases latin
  | nodeInfo | stop => exact .inr ⟨rfl, text, latin⟩
  | names | dump | kill => exact .inr ⟨rfl, [], rfl⟩

/-- A request is written, unless its name is not Latin-1 or a length in it is over the limit. -/
theorem encode_cases (request : Request) :
    (∃ before c after, request.name = before ++ c :: after ∧ (∀ d ∈ before, d.toNat ≤ 0xff) ∧
        0xff < c.toNat ∧ request.encode = .error (.notLatin1 "name" c)) ∨
      ((∀ c ∈ request.name, c.toNat ≤ 0xff) ∧
        ((∃ field length, overlong? request.lengths = some (field, length) ∧
            request.encode = .error (.fieldTooLong field length maxShortField)) ∨
          (overlong? request.lengths = none ∧ ∃ frame, request.encode = .ok frame))) := by
  rcases Text.Latin1.encode_cases "name" request.name with
    ⟨before, c, after, split, clean, foreign⟩ | ⟨latin, text, wrote⟩
  · exact .inl ⟨before, c, after, split, clean, foreign, encode_of_foreign split clean foreign⟩
  refine .inr ⟨latin, ?_⟩
  rw [encode, overlong?_lengths]
  rcases encodeBody_cases wrote with ⟨field, length, long, failed⟩ | ⟨fits, body, wrote⟩
  · rw [failed, long]
    exact .inl ⟨field, length, rfl, rfl⟩
  rw [wrote, fits, ← length_encodeBody wrote]
  rcases Nat.lt_or_ge maxShortField (1 + body.length) with long | fits
  · rw [overlong?_cons_of_lt long]
    exact .inl ⟨"request", 1 + body.length, rfl, Frame.write_of_lt long⟩
  · rw [overlong?_cons_of_le fits]
    exact .inr ⟨rfl, Frame.write_of_le fits⟩

theorem encode_ok_iff :
    (∃ frame, request.encode = .ok frame) ↔
      (∀ c ∈ request.name, c.toNat ≤ 0xff) ∧ overlong? request.lengths = none := by
  constructor
  · rintro ⟨frame, wrote⟩
    rcases request.encode_cases with ⟨_, _, _, _, _, _, failed⟩ | ⟨latin, ⟨_, _, _, failed⟩ | ⟨fits, _⟩⟩
    · cases wrote.symm.trans failed
    · cases wrote.symm.trans failed
    · exact ⟨latin, fits⟩
  · rintro ⟨latin, fits⟩
    rcases request.encode_cases with ⟨_, c, _, split, _, foreign, _⟩ | ⟨_, ⟨_, _, long, _⟩ | ⟨_, wrote⟩⟩
    · have small := latin c (by rw [split]; exact List.mem_append_cons_self)
      omega
    · cases long.symm.trans fits
    · exact wrote

theorem encode_error_iff {error : WireError} :
    request.encode = .error error ↔
      (∃ before c after, request.name = before ++ c :: after ∧ (∀ d ∈ before, d.toNat ≤ 0xff) ∧
        0xff < c.toNat ∧ error = .notLatin1 "name" c) ∨
      ((∀ c ∈ request.name, c.toNat ≤ 0xff) ∧ ∃ field length,
        overlong? request.lengths = some (field, length) ∧
        error = .fieldTooLong field length maxShortField) := by
  constructor
  · intro failed
    rcases request.encode_cases with
      ⟨before, c, after, split, clean, foreign, same⟩ | ⟨latin, ⟨field, length, long, same⟩ | ⟨_, _, wrote⟩⟩
    · cases failed.symm.trans same
      exact .inl ⟨before, c, after, split, clean, foreign, rfl⟩
    · cases failed.symm.trans same
      exact .inr ⟨latin, field, length, long, rfl⟩
    · cases failed.symm.trans wrote
  · rintro (⟨before, c, after, split, clean, foreign, rfl⟩ | ⟨latin, field, length, long, rfl⟩)
    · exact encode_of_foreign split clean foreign
    · rcases request.encode_cases with ⟨_, c, _, split, _, foreign, _⟩ | ⟨_, ⟨_, _, same, failed⟩ | ⟨fits, _⟩⟩
      · have small := latin c (by rw [split]; exact List.mem_append_cons_self)
        omega
      · cases long.symm.trans same
        exact failed
      · cases long.symm.trans fits

end Request

/-! ## Codes under their names -/

theorem NodeType.ofByte_toByte_iff {nodeType : NodeType} :
    ofByte nodeType.toByte = nodeType ↔
      ∀ byte, nodeType = .unknown byte → ofByte byte = .unknown byte := by
  cases nodeType <;> simp [toByte, ofByte]

theorem Protocol.ofByte_toByte_iff {protocol : Protocol} :
    ofByte protocol.toByte = protocol ↔
      ∀ byte, protocol = .unknown byte → ofByte byte = .unknown byte := by
  cases protocol <;> simp [toByte, ofByte]

theorem Version.ofWord_toWord_iff {version : Version} :
    ofWord version.toWord = version ↔
      ∀ word, version = .unknown word → ofWord word = .unknown word := by
  cases version <;> simp [toWord, ofWord]

/-- No code of the description is a bare number that has a name. -/
structure NodeDescription.CodesNamed (node : NodeDescription) : Prop where
  nodeType : ∀ byte, node.nodeType = .unknown byte → NodeType.ofByte byte = .unknown byte
  protocol : ∀ byte, node.protocol = .unknown byte → Protocol.ofByte byte = .unknown byte
  highest : ∀ word, node.highest = .unknown word → Version.ofWord word = .unknown word
  lowest : ∀ word, node.lowest = .unknown word → Version.ofWord word = .unknown word

theorem NodeDescription.normalise_eq_self {node : NodeDescription} :
    node.normalise = node ↔ node.CodesNamed := by
  obtain ⟨port, nodeType, protocol, highest, lowest, name, extra⟩ := node
  simp only [normalise, mk.injEq, true_and, and_true]
  constructor
  · rintro ⟨nodeType, protocol, highest, lowest⟩
    exact ⟨NodeType.ofByte_toByte_iff.mp nodeType, Protocol.ofByte_toByte_iff.mp protocol,
      Version.ofWord_toWord_iff.mp highest, Version.ofWord_toWord_iff.mp lowest⟩
  · intro named
    exact ⟨NodeType.ofByte_toByte_iff.mpr named.nodeType, Protocol.ofByte_toByte_iff.mpr named.protocol,
      Version.ofWord_toWord_iff.mpr named.highest, Version.ofWord_toWord_iff.mpr named.lowest⟩

namespace Request

variable {request : Request} {frame : Bytes}

/-- No code in the request is a bare number that has a name. -/
def CodesNamed : Request → Prop
  | registration node => node.CodesNamed
  | _ => True

theorem normalise_eq_self : request.normalise = request ↔ request.CodesNamed := by
  cases request with
  | registration node => simp only [normalise, registration.injEq, NodeDescription.normalise_eq_self, CodesNamed]
  | nodeInfo | names | dump | kill | stop => simp only [normalise, CodesNamed]

/-! ## Writing a request -/

theorem decode_of_encode (wrote : request.encode = .ok frame) : decode frame = .ok request.normalise :=
  decode_ok.mpr ⟨by rw [encode_normalise, wrote], normalise_normalise request⟩

theorem prefix_of_encode (wrote : request.encode = .ok frame) :
    ∃ high low rest, frame = high :: low :: rest ∧
      frame.length = 2 + (BigEndian.toUInt16 high low).toNat := by
  obtain ⟨body, _, high, low, rfl, declared⟩ := encode_ok.mp wrote
  refine ⟨high, low, _, rfl, ?_⟩
  rw [declared, List.length_cons, List.length_cons]
  omega

/-- A request is written exactly if each character of its name has a byte and the frame is not longer than its
length can say. Its length says where the frame ends, and the frame reads back as the request, each code under its
name. A request that is not written has a first character without a byte, or else a first length over the limit. -/
theorem request_is_written_iff_it_fits (request : Request) :
    ((∃ frame, request.encode = .ok frame) ↔
      (∀ c ∈ request.name, c.toNat ≤ 0xff) ∧ request.frameLength ≤ 65535) ∧
    (∀ frame, request.encode = .ok frame →
      (∃ high low rest, frame = high :: low :: rest ∧
        frame.length = 2 + (BigEndian.toUInt16 high low).toNat) ∧
      decode frame = .ok request.normalise ∧
      (request.CodesNamed ↔ decode frame = .ok request)) ∧
    (∀ error, request.encode = .error error ↔
      (∃ before c after, request.name = before ++ c :: after ∧ (∀ d ∈ before, d.toNat ≤ 0xff) ∧
        0xff < c.toNat ∧ error = .notLatin1 "name" c) ∨
      ((∀ c ∈ request.name, c.toNat ≤ 0xff) ∧ ∃ field length,
        request.lengths.find? (65535 < ·.2) = some (field, length) ∧
        error = .fieldTooLong field length 65535)) := by
  refine ⟨?_, fun frame wrote => ⟨prefix_of_encode wrote, decode_of_encode wrote, ?_⟩,
    fun _ => encode_error_iff⟩
  · rw [encode_ok_iff, overlong?_lengths_eq_none, maxShortField]
  · rw [decode_of_encode wrote, Except.ok.injEq, normalise_eq_self]

/-- A node gives its type as a bare number that has a name, and a name that UTF-8 would write with two bytes. -/
theorem request_is_written_iff_it_fits_of_registration :
    let request := registration { port := 9, nodeType := .unknown 77, name := ['é'] }
    let frame : Bytes := [0, 14, 120, 0, 9, 77, 0, 0, 5, 0, 5, 0, 1, 233, 0, 0]
    request.encode = .ok frame ∧ ¬ request.CodesNamed ∧
      decode frame = .ok (registration { port := 9, nodeType := .r3Erlang, name := ['é'] }) := by
  intro request frame
  have wrote : request.encode = .ok frame := rfl
  obtain ⟨_, read, same⟩ := (request_is_written_iff_it_fits request).2.1 frame wrote
  refine ⟨wrote, fun named => ?_, read⟩
  exact absurd (Except.ok.inj (read.symm.trans (same.mp named))) (by decide)

end Request

end PortMapper
