import PortMapper.Proofs.Fields
import PortMapper.Proofs.Request.Fitting
import PortMapper.Proofs.Reply.NodeInfo

/-!
# How a description arrives

A registration and a positive answer to a lookup end with a description, and with nothing after it. No complete
description is a proper prefix of another one (`NodeDescription.IsComplete.unique`), so there are three cases: the
bytes are a complete description, or go on after one, or end within one (`NodeDescription.Arrival`). In the first they
are read, and in the others the error says by how much they are too long, or which field is cut short and where.
-/

namespace PortMapper

theorem Text.Latin1.encode_eq_map {field : String} {text : Text} {bytes : Bytes}
    (wrote : encode field text = .ok bytes) : bytes = text.map fun c => UInt8.ofNat c.toNat := by
  unfold encode at wrote
  split at wrote <;> cases wrote
  rfl

namespace NodeDescription

open WireField (EndsWithin)

variable {node : NodeDescription} {written bytes : Bytes}

/-- The length of a short field, and its content. -/
def shortFields (name : String) (content : Bytes) : List WireField :=
  [⟨name, BigEndian.ofUInt16 (UInt16.ofNat content.length)⟩, ⟨name, content⟩]

/-- The fields of a description in the order in which they are written, a two-byte length being one of its own. -/
def fields (node : NodeDescription) : List WireField :=
  [⟨"port", BigEndian.ofUInt16 node.port⟩, ⟨"node type", [node.nodeType.toByte]⟩,
    ⟨"protocol", [node.protocol.toByte]⟩, ⟨"highest version", BigEndian.ofUInt16 node.highest.toWord⟩,
    ⟨"lowest version", BigEndian.ofUInt16 node.lowest.toWord⟩] ++
  shortFields "name" (node.name.map fun c => UInt8.ofNat c.toNat) ++ shortFields "extra" node.extra

/-- Some description is written as these bytes. -/
def IsComplete (bytes : Bytes) : Prop :=
  ∃ node : NodeDescription, node.encode = .ok bytes

theorem fields_normalise (node : NodeDescription) : node.normalise.fields = node.fields := by
  simp only [fields, normalise, NodeType.toByte_ofByte, Protocol.toByte_ofByte, Version.toWord_ofWord]

theorem encode_eq_join (wrote : node.encode = .ok written) : written = WireField.join node.fields := by
  obtain ⟨name, nameField, extraField, latin, named, added, rfl⟩ := encode_ok.mp wrote
  obtain ⟨_, rfl⟩ := shortField_ok.mp named
  obtain ⟨_, rfl⟩ := shortField_ok.mp added
  rw [Text.Latin1.encode_eq_map latin]
  simp [fields, shortFields]

/-- A description that is written is written like one with each code under its name. -/
theorem exists_named (wrote : node.encode = .ok written) : ∃ named : NodeDescription,
    named.encode = .ok written ∧ named.normalise = named ∧ named.fields = node.fields :=
  ⟨node.normalise, node.encode_normalise.trans wrote, node.normalise_normalise, node.fields_normalise⟩

section Parts

variable (port : UInt16) (nodeType protocol : UInt8) (highest lowest : UInt16) (name extra : Bytes)

/-- The description that is read of what the fields hold. -/
def ofParts : NodeDescription where
  port := port
  nodeType := NodeType.ofByte nodeType
  protocol := Protocol.ofByte protocol
  highest := Version.ofWord highest
  lowest := Version.ofWord lowest
  name := Text.Latin1.decode name
  extra := extra

theorem normalise_ofParts : (ofParts port nodeType protocol highest lowest name extra).normalise =
    ofParts port nodeType protocol highest lowest name extra := by
  simp only [ofParts, normalise, NodeType.toByte_ofByte, Protocol.toByte_ofByte, Version.toWord_ofWord]

theorem fields_ofParts : (ofParts port nodeType protocol highest lowest name extra).fields =
    [⟨"port", BigEndian.ofUInt16 port⟩, ⟨"node type", [nodeType]⟩, ⟨"protocol", [protocol]⟩,
      ⟨"highest version", BigEndian.ofUInt16 highest⟩, ⟨"lowest version", BigEndian.ofUInt16 lowest⟩] ++
    shortFields "name" name ++ shortFields "extra" extra := by
  simp only [fields, ofParts, NodeType.toByte_ofByte, Protocol.toByte_ofByte, Version.toWord_ofWord,
    ← Text.Latin1.encode_eq_map (Text.Latin1.encode_decode "name" name)]

theorem encode_ofParts (nameFits : name.length ≤ maxShortField) (extraFits : extra.length ≤ maxShortField) :
    ∃ written, (ofParts port nodeType protocol highest lowest name extra).encode = .ok written :=
  ⟨_, encode_ok.mpr ⟨name, _, _, Text.Latin1.encode_decode "name" name, shortField_ok.mpr ⟨nameFits, rfl⟩,
    shortField_ok.mpr ⟨extraFits, rfl⟩, rfl⟩⟩

end Parts

/-! ## Reading the fields -/

theorem reads_short {field : String} : (Reader.short field).ReadsFields fun content fields =>
    content.length ≤ maxShortField ∧ fields = shortFields field content := by
  refine (Reader.ReadsFields.u16.bind fun count => .bytes count.toNat).of_iff fun content fields => ?_
  constructor
  · rintro ⟨count, _, rfl, _, rfl, length, rfl⟩
    have bound := count.toNat_lt
    refine ⟨?_, ?_⟩
    · rw [length, maxShortField]
      omega
    · rw [shortFields, length, UInt16.ofNat_toNat]
      rfl
  · rintro ⟨fits, rfl⟩
    refine ⟨UInt16.ofNat content.length, _, rfl, _, rfl, ?_, rfl⟩
    rw [UInt16.toNat_ofNat', Nat.mod_eq_of_lt]
    rw [maxShortField] at fits
    omega

/-- The reader of a description takes the fields of one that can be written, with each code under its name. -/
theorem reads_fields : reader.ReadsFields fun node fields =>
    (∃ written, node.encode = .ok written) ∧ node.normalise = node ∧ fields = node.fields := by
  unfold reader
  refine (Reader.ReadsFields.u16.bind fun port => Reader.ReadsFields.u8.bind fun nodeType =>
    Reader.ReadsFields.u8.bind fun protocol => Reader.ReadsFields.u16.bind fun highest =>
    Reader.ReadsFields.u16.bind fun lowest => reads_short.bind fun name => reads_short.bind fun extra =>
    .pure _).of_iff fun node fields => ?_
  constructor
  · rintro ⟨port, _, rfl, _, rfl, nodeType, _, rfl, _, rfl, protocol, _, rfl, _, rfl, highest, _, rfl, _, rfl,
      lowest, _, rfl, _, rfl, name, _, ⟨nameFits, rfl⟩, _, rfl, extra, _, ⟨extraFits, rfl⟩, _, rfl, rfl, rfl⟩
    refine ⟨encode_ofParts port nodeType protocol highest lowest name extra nameFits extraFits,
      normalise_ofParts .., ?_⟩
    exact (fields_ofParts port nodeType protocol highest lowest name extra).symm
  · rintro ⟨⟨written, wrote⟩, named, rfl⟩
    obtain ⟨name, _, _, latin, nameField, extraField, _⟩ := encode_ok.mp wrote
    refine ⟨node.port, _, rfl, _, ?_, node.nodeType.toByte, _, rfl, _, rfl, node.protocol.toByte, _, rfl, _, rfl,
      node.highest.toWord, _, rfl, _, rfl, node.lowest.toWord, _, rfl, _, rfl,
      name, _, ⟨(shortField_ok.mp nameField).1, rfl⟩, _, rfl,
      node.extra, _, ⟨(shortField_ok.mp extraField).1, rfl⟩, _, rfl, ?_, rfl⟩
    · rw [NodeDescription.fields, ← Text.Latin1.encode_eq_map latin]
      simp
    · rw [Text.Latin1.decode_encode latin]
      exact named

/-! ## Complete descriptions -/

/-- Any eight bytes and any two short fields make a complete description. -/
theorem isComplete_iff : IsComplete bytes ↔ ∃ codes name extra : Bytes, codes.length = 8 ∧
    name.length ≤ 65535 ∧ extra.length ≤ 65535 ∧ bytes = codes ++ BigEndian.ofUInt16 (UInt16.ofNat name.length) ++
      name ++ BigEndian.ofUInt16 (UInt16.ofNat extra.length) ++ extra := by
  constructor
  · rintro ⟨node, wrote⟩
    obtain ⟨name, _, _, _, named, added, rfl⟩ := encode_ok.mp wrote
    obtain ⟨nameFits, rfl⟩ := shortField_ok.mp named
    obtain ⟨extraFits, rfl⟩ := shortField_ok.mp added
    exact ⟨BigEndian.ofUInt16 node.port ++ [node.nodeType.toByte, node.protocol.toByte] ++
      BigEndian.ofUInt16 node.highest.toWord ++ BigEndian.ofUInt16 node.lowest.toWord,
      name, node.extra, rfl, nameFits, extraFits, by simp⟩
  · rintro ⟨codes, name, extra, eight, nameFits, extraFits, rfl⟩
    match codes, eight with
    | [a, b, c, d, e, f, g, h], _ =>
      obtain ⟨written, wrote⟩ := encode_ofParts (BigEndian.toUInt16 a b) c d (BigEndian.toUInt16 e f)
        (BigEndian.toUInt16 g h) name extra nameFits extraFits
      refine ⟨_, wrote.trans (congrArg _ ?_)⟩
      rw [encode_eq_join wrote, fields_ofParts]
      simp [shortFields, BigEndian.ofUInt16_toUInt16]

/-- Of all prefixes of some bytes, one at most is a complete description. -/
theorem IsComplete.unique {head other : Bytes} (complete : IsComplete head) (again : IsComplete other)
    (first : head <+: bytes) (second : other <+: bytes) : head = other := by
  obtain ⟨node, wrote⟩ := complete
  obtain ⟨_, wroteOther⟩ := again
  obtain ⟨rest, rfl⟩ := first
  obtain ⟨restOther, same⟩ := second
  have read := reader_encode wrote rest
  rw [← same, reader_encode wroteOther] at read
  cases congrArg Prod.snd read
  exact (List.append_cancel_right same).symm

theorem IsComplete.eq_of_near {other : Bytes} (complete : IsComplete bytes) (again : IsComplete other)
    (near : bytes <+: other ∨ other <+: bytes) : bytes = other :=
  near.elim (complete.unique again · (List.prefix_refl _)) (complete.unique again (List.prefix_refl _))

variable {α : Type}

/-- The three ways in which the result of reading a description can come about. `lead` is how many bytes of the
message came before the description, and `build` gives what is read of the message. -/
structure Arrival (build : NodeDescription → α) (lead : Nat) (bytes : Bytes) (result : Except WireError α) : Prop where
  outcome : (∃ value, result = .ok value) ∨
    (∃ declared available, result = .error (.lengthMismatch declared available)) ∨
      ∃ field needed available, result = .error (.truncatedField field needed available)
  whole : (∃ value, result = .ok value) ↔ IsComplete bytes
  /-- What is read is the description that is written as these bytes, with each code under its name. -/
  described : ∀ value, result = .ok value ↔
    ∃ node : NodeDescription, node.encode = .ok bytes ∧ node.normalise = node ∧ build node = value
  /-- The error gives the lengths of the description that comes first and of all there is. -/
  overlong : ∀ declared available, result = .error (.lengthMismatch declared available) ↔
    ∃ head, IsComplete head ∧ head <+: bytes ∧ head ≠ bytes ∧
      declared = lead + head.length ∧ available = lead + bytes.length
  cut : (∃ field needed available, result = .error (.truncatedField field needed available)) ↔
    ∃ complete, IsComplete complete ∧ bytes <+: complete ∧ bytes ≠ complete
  /-- Whichever description the bytes are cut from, the error names the field of it in which they end. -/
  unfinished : ∀ field needed available, result = .error (.truncatedField field needed available) →
    available < needed ∧ ∀ (node : NodeDescription) (complete : Bytes), node.encode = .ok complete →
      bytes <+: complete → bytes ≠ complete → ∃ before content behind,
        node.fields = before ++ ⟨field, content⟩ :: behind ∧ content.length = needed ∧
          bytes = WireField.join before ++ content.take available

variable {build : NodeDescription → α} {lead : Nat} {result : Except WireError α}

theorem endsWithin_fields (wrote : node.encode = .ok written) :
    (∃ error, EndsWithin node.fields bytes error) ↔ bytes <+: written ∧ bytes ≠ written := by
  rw [encode_eq_join wrote]
  exact WireField.exists_endsWithin

/-- A description arrives in one of three ways if it is read when it is complete, and refused when the bytes end within
its fields or go on after them. -/
theorem Arrival.of_cases
    (read : ∀ value, result = .ok value ↔
      ∃ node : NodeDescription, node.encode = .ok bytes ∧ node.normalise = node ∧ build node = value)
    (failed : ∀ error, result = .error error ↔
      (∃ node : NodeDescription, (∃ written, node.encode = .ok written) ∧ EndsWithin node.fields bytes error) ∨
        ∃ head, IsComplete head ∧ head <+: bytes ∧ head ≠ bytes ∧
          error = .lengthMismatch (lead + head.length) (lead + bytes.length)) : Arrival build lead bytes result where
  outcome := by
    cases came : result with
    | ok value => exact .inl ⟨value, rfl⟩
    | error error =>
      rcases (failed error).mp came with ⟨_, _, cut⟩ | ⟨_, _, _, _, rfl⟩
      · obtain ⟨_, _, _, rfl, _⟩ := cut.error_eq
        exact .inr (.inr ⟨_, _, _, rfl⟩)
      · exact .inr (.inl ⟨_, _, rfl⟩)
  whole := by
    constructor
    · rintro ⟨value, came⟩
      obtain ⟨node, wrote, _⟩ := (read value).mp came
      exact ⟨node, wrote⟩
    · rintro ⟨node, wrote⟩
      obtain ⟨node, wrote, named, _⟩ := exists_named wrote
      exact ⟨build node, (read _).mpr ⟨node, wrote, named, rfl⟩⟩
  described := read
  overlong := by
    intro declared available
    rw [failed]
    constructor
    · rintro (⟨_, _, cut⟩ | ⟨head, complete, first, proper, same⟩)
      · obtain ⟨_, _, _, other, _⟩ := cut.error_eq
        cases other
      · cases same
        exact ⟨head, complete, first, proper, rfl, rfl⟩
    · rintro ⟨head, complete, first, proper, rfl, rfl⟩
      exact .inr ⟨head, complete, first, proper, rfl⟩
  cut := by
    constructor
    · rintro ⟨field, needed, available, came⟩
      rcases (failed _).mp came with ⟨node, ⟨written, wrote⟩, cut⟩ | ⟨_, _, _, _, other⟩
      · exact ⟨written, ⟨node, wrote⟩, (endsWithin_fields wrote).mp ⟨_, cut⟩⟩
      · cases other
    · rintro ⟨complete, ⟨node, wrote⟩, proper⟩
      obtain ⟨error, cut⟩ := (endsWithin_fields wrote).mpr proper
      obtain ⟨field, needed, available, rfl, _⟩ := cut.error_eq
      exact ⟨field, needed, available, (failed _).mpr (.inl ⟨node, ⟨_, wrote⟩, cut⟩)⟩
  unfinished := by
    intro field needed available came
    constructor
    · rcases (failed _).mp came with ⟨_, _, cut⟩ | ⟨_, _, _, _, other⟩
      · obtain ⟨_, _, _, same, short⟩ := cut.error_eq
        cases same
        exact short
      · cases other
    · intro node complete wrote within proper
      obtain ⟨error, cut⟩ := (endsWithin_fields wrote).mpr ⟨within, proper⟩
      have again := (failed error).mpr (.inl ⟨node, ⟨_, wrote⟩, cut⟩)
      obtain ⟨before, field, behind, part, split, rfl, start, _, rfl⟩ := cut
      cases came.symm.trans again
      refine ⟨before, field.bytes, behind, split, rfl, ?_⟩
      rw [← List.prefix_iff_eq_take.mp start]

/-- A description that a message ends with arrives in one of three ways, if the message takes `lead` more bytes than
the description. -/
theorem arrival_message {size : NodeDescription → Nat} (sized : ∀ node, size node = lead + node.wireLength) :
    Arrival build lead bytes
      ((do let node ← reader; Reader.finish (size node); return build node : Reader α).read bytes) := by
  refine .of_cases (fun value => ?_) fun error => ?_
  · rw [reads_fields.message_ok]
    constructor
    · rintro ⟨node, _, ⟨⟨written, wrote⟩, named, rfl⟩, rfl, rfl⟩
      rw [← encode_eq_join wrote]
      exact ⟨node, wrote, named, rfl⟩
    · rintro ⟨node, wrote, named, rfl⟩
      exact ⟨node, _, ⟨⟨bytes, wrote⟩, named, rfl⟩, encode_eq_join wrote, rfl⟩
  · rw [reads_fields.message_error]
    constructor
    · rintro (⟨node, _, ⟨complete, _, rfl⟩, cut⟩ | ⟨node, _, rest, ⟨⟨written, wrote⟩, _, rfl⟩, rfl, more, rfl⟩)
      · exact .inl ⟨node, complete, cut⟩
      · rw [← encode_eq_join wrote, sized, ← length_encode wrote, Nat.add_assoc, ← List.length_append]
        exact .inr ⟨written, ⟨node, wrote⟩, List.prefix_append .., by simpa using more, rfl⟩
    · rintro (⟨node, ⟨written, wrote⟩, cut⟩ | ⟨head, ⟨node, wrote⟩, ⟨rest, rfl⟩, proper, rfl⟩)
      · obtain ⟨other, wrote, named, same⟩ := exists_named wrote
        exact .inl ⟨other, node.fields, ⟨⟨written, wrote⟩, named, same.symm⟩, cut⟩
      · obtain ⟨node, wrote, named, _⟩ := exists_named wrote
        refine .inr ⟨node, _, rest, ⟨⟨head, wrote⟩, named, rfl⟩, ?_, by simpa using proper, ?_⟩
        · rw [← encode_eq_join wrote]
        · rw [sized, ← length_encode wrote, List.length_append, Nat.add_assoc]

end NodeDescription

/-! ## Registrations and answers to lookups -/

open NodeDescription (IsComplete Arrival)

theorem Request.decodeBody_arrival (bytes : Bytes) :
    Arrival registration 0 bytes (decodeBody .alive2Request bytes) :=
  NodeDescription.arrival_message fun _ => (Nat.zero_add _).symm

theorem NodeInfo.decode_arrival (bytes : Bytes) : Arrival found 2 bytes (decode (119 :: 0 :: bytes)) :=
  NodeDescription.arrival_message fun _ => rfl

/-- Of all beginnings and continuations of a registration's body, only the body itself is accepted. -/
theorem Request.eq_of_decodeBody {request : Request} {complete other : Bytes} (whole : IsComplete complete)
    (near : other <+: complete ∨ complete <+: other) (accepted : decodeBody .alive2Request other = .ok request) :
    other = complete :=
  ((decodeBody_arrival other).whole.mp ⟨request, accepted⟩).eq_of_near whole near

/-- Of all beginnings and continuations of a positive answer, only the answer itself is accepted. -/
theorem NodeInfo.eq_of_decode {node : NodeDescription} {info : NodeInfo} {message other : Bytes}
    (wrote : (found node).encode = .ok message) (near : other <+: message ∨ message <+: other)
    (accepted : decode other = .ok info) : other = message := by
  obtain ⟨written, described, rfl⟩ := found_encode.mp wrote
  match other with
  | [] => cases accepted
  | [tag] =>
    obtain rfl : tag = 119 := by simpa using near
    cases accepted
  | tag :: status :: rest =>
    obtain ⟨rfl, rfl, nearby⟩ : tag = 119 ∧ status = 0 ∧ (rest <+: written ∨ written <+: rest) := by
      simp only [List.cons_prefix_cons] at near
      rcases near with ⟨rfl, rfl, near⟩ | ⟨rfl, rfl, near⟩
      · exact ⟨rfl, rfl, .inl near⟩
      · exact ⟨rfl, rfl, .inr near⟩
    rw [((decode_arrival rest).whole.mp ⟨info, accepted⟩).eq_of_near ⟨node, described⟩ nearby]

/-- A complete description is its fields in a row: eight bytes of codes and two short fields. That of a registration,
and that of a positive answer to a lookup, arrives whole, with something after it, or cut short. Only what is whole is
accepted, so no proper prefix and no proper continuation of a complete message is. -/
theorem description_arrives_in_three_ways :
    (∀ bytes, IsComplete bytes ↔ ∃ codes name extra : Bytes, codes.length = 8 ∧
      name.length ≤ 65535 ∧ extra.length ≤ 65535 ∧ bytes = codes ++ BigEndian.ofUInt16 (UInt16.ofNat name.length) ++
        name ++ BigEndian.ofUInt16 (UInt16.ofNat extra.length) ++ extra) ∧
    (∀ node complete, NodeDescription.encode node = .ok complete → complete = WireField.join node.fields) ∧
    (∀ bytes, Arrival Request.registration 0 bytes (Request.decodeBody .alive2Request bytes)) ∧
    (∀ bytes, Arrival NodeInfo.found 2 bytes (NodeInfo.decode (119 :: 0 :: bytes))) ∧
    (∀ bytes head other, IsComplete head → IsComplete other → head <+: bytes → other <+: bytes → head = other) ∧
    (∀ complete other, IsComplete complete → other <+: complete ∨ complete <+: other → other ≠ complete →
      ∀ request, Request.decodeBody .alive2Request other ≠ .ok request) ∧
    (∀ node message other, (NodeInfo.found node).encode = .ok message → other <+: message ∨ message <+: other →
      other ≠ message → ∀ info, NodeInfo.decode other ≠ .ok info) := by
  refine ⟨fun _ => NodeDescription.isComplete_iff, fun _ _ => NodeDescription.encode_eq_join,
    Request.decodeBody_arrival, NodeInfo.decode_arrival, fun _ _ _ => IsComplete.unique, ?_, ?_⟩
  · exact fun complete other whole near proper request accepted => proper (Request.eq_of_decodeBody whole near accepted)
  · exact fun node message other wrote near proper info accepted => proper (NodeInfo.eq_of_decode wrote near accepted)

/-- The name is one byte that UTF-8 would write as two. With a byte more the body is refused for its length, and an
answer that lacks its last byte for the field that ends early. -/
theorem description_arrives_in_three_ways_of_accented :
    let complete : Bytes := [0, 9, 77, 0, 0, 5, 0, 5, 0, 1, 233, 0, 0]
    IsComplete complete ∧
      Request.decodeBody .alive2Request (complete ++ [0]) = .error (.lengthMismatch 13 14) ∧
      (∃ field needed available, NodeInfo.decode (119 :: 0 :: complete.take 12) =
        .error (.truncatedField field needed available)) ∧
      ∀ info, NodeInfo.decode (119 :: 0 :: complete.take 12) ≠ .ok info := by
  intro complete
  obtain ⟨_, _, registration, answer, _, _, refused⟩ := description_arrives_in_three_ways
  have whole : IsComplete complete := ⟨{ port := 9, nodeType := .r3Erlang, name := ['é'] }, rfl⟩
  have within : complete.take 12 <+: complete := List.take_prefix ..
  refine ⟨whole, ?_, ?_, ?_⟩
  · exact ((registration _).overlong 13 14).mpr
      ⟨complete, whole, List.prefix_append .., by decide, rfl, rfl⟩
  · exact (answer _).cut.mpr ⟨complete, whole, within, by decide⟩
  · exact refused { port := 9, nodeType := .r3Erlang, name := ['é'] } (119 :: 0 :: complete) _ rfl
      (.inl ((List.prefix_append_right_inj [119, 0]).mpr within)) (by decide)

end PortMapper
