import PortMapper.Control.Basic
import PortMapper.Proofs.Client.Replies
import PortMapper.Proofs.Reply.Dump
import PortMapper.Proofs.Reply.Names

/-!
# What the exit code tells

A command that makes a call asks once, and the reply decides (`Command.exists_asks`). The exit code is 0 if the reply
gives the command what it asked for (`Command.Grants`), which is then shown (`Command.Shows`), and 1 for every other
reply. It is 2 exactly if the request could be written and the exchange did not end with the daemon closing
(`exit_code_tells_answers_apart`).
-/

namespace PortMapper

namespace Control

/-! ## Lines that are shown -/

/-- A text that is read back as one line if a line feed stands behind it. -/
def IsLine (line : Text) : Prop :=
  '\n' ∉ line ∧ line.getLast? ≠ some '\r'

section

variable {lines : List Text} {before line : Text}

theorem lines_unlines (whole : ∀ line ∈ lines, IsLine line) : (unlines lines).lines = lines := by
  have parted : Text.parts '\n' (unlines lines) = lines ++ [[]] := by
    induction lines with
    | nil => rfl
    | cons line lines ih =>
      obtain ⟨⟨clean, _⟩, whole⟩ := List.forall_mem_cons.mp whole
      have split : unlines (line :: lines) = line ++ '\n' :: unlines lines := by simp [unlines]
      rw [split, Text.parts_append_cons clean, ih whole, List.cons_append]
  rw [Text.lines, parted, Text.closeLines_append_nil]
  calc lines.map Text.dropReturn
    _ = lines.map id := List.map_congr_left fun line member => if_neg (whole line member).2
    _ = lines := List.map_id lines

/-- Nothing but the end of a line can be a carriage return that does not belong to it. -/
theorem isLine_append (clean : '\n' ∉ before ++ line) (ends : ∃ last, line.getLast? = some last ∧ last ≠ '\r') :
    IsLine (before ++ line) := by
  obtain ⟨last, ends, other⟩ := ends
  refine ⟨clean, ?_⟩
  rw [List.getLast?_append, ends, Option.some_or]
  exact fun returned => other (Option.some.inj returned)

theorem not_mem_write (n : Nat) : '\n' ∉ Text.Decimal.write n := by
  intro feed
  cases Text.Decimal.isDigit_of_mem_write feed

theorem isLine_append_write (clean : '\n' ∉ before) (n : Nat) : IsLine (before ++ Text.Decimal.write n) := by
  obtain ⟨last, ends, digit⟩ := Text.Decimal.getLast?_append_write [] n
  refine isLine_append (List.not_mem_append clean (not_mem_write n)) ⟨last, ends, ?_⟩
  rintro rfl
  cases digit

/-- An entry of a listing that was read is shown as one line. -/
theorem isLine_entry {α : Type} {name write : α → Text} {parse : Text → Except WireError α} {daemonPort : UInt32}
    {entries : List α} {bytes : Bytes} (lawful : Listing.Lawful name write parse)
    (read : Listing.decode parse bytes = .ok (daemonPort, entries)) (clean : '\n' ∉ before) :
    ∀ entry ∈ entries, IsLine (before ++ write entry) := by
  intro entry member
  refine isLine_append (List.not_mem_append clean fun feed => ?_) (lawful.ends entry)
  rcases lawful.plain_line entry _ feed with named | ⟨other, _⟩
  · exact Listing.not_mem_of_decode lawful read entry member named
  · exact other rfl

end

/-- The lines of a name listing that was read are as many as its nodes and a title, whatever the names are. -/
theorem lines_nameLines {listing : NameListing} {bytes : Bytes} (decoded : NameListing.decode bytes = .ok listing) :
    (unlines (nameLines listing)).lines = nameLines listing := by
  refine lines_unlines (List.forall_mem_cons.mpr ⟨?_, List.forall_mem_map.mpr ?_⟩)
  · refine isLine_append (List.not_mem_append (List.not_mem_append ?_ (not_mem_write _)) ?_) ⟨':', rfl, by decide⟩
    · decide
    · decide
  · have start : '\n' ∉ ([] : Text) := List.not_mem_nil
    exact isLine_entry NamedPort.lawful (NameListing.decode_ok.mp decoded) start

/-- The lines of a dump that was read are as many as its entries and three titles, whatever the names are. -/
theorem lines_dumpLines {dump : Dump} {bytes : Bytes} (decoded : Dump.decode bytes = .ok dump) :
    (unlines (dumpLines dump)).lines = dumpLines dump := by
  have entries : ∀ entry ∈ dump.entries, IsLine ("  ".toList ++ entry.line) :=
    isLine_entry DumpEntry.lawful (Dump.decode_ok.mp decoded) (by decide)
  have block (title : String) (state : DumpState) (clean : '\n' ∉ title.toList) :
      ∀ line ∈ stateLines title (dump.entriesIn state), IsLine line := by
    refine List.forall_mem_cons.mpr ⟨?_, List.forall_mem_map.mpr fun entry member => ?_⟩
    · refine isLine_append (List.not_mem_append (List.not_mem_append (List.not_mem_append clean ?_) ?_) ?_)
        ⟨':', rfl, by decide⟩
      · decide
      · exact not_mem_write _
      · decide
    · exact entries entry (List.mem_filter.mp member).1
  refine lines_unlines (List.forall_mem_append.mpr ⟨List.forall_mem_cons.mpr ⟨?_, ?_⟩, ?_⟩)
  · exact isLine_append_write (by decide) _
  · exact block "Active names" .active (by decide)
  · exact block "Old/unused names" .oldUnused (by decide)

/-- Each entry of a dump is in one of its two groups. -/
theorem entries_perm (dump : Dump) : (dump.entriesIn .active ++ dump.entriesIn .oldUnused).Perm dump.entries := by
  have others : dump.entriesIn .oldUnused = dump.entries.filter fun entry => !decide (entry.state = .active) := by
    refine List.filter_congr fun entry _ => ?_
    cases entry.state <;> rfl
  rw [others]
  exact List.filter_append_perm _ _

theorem jsonWord_eq (state : DumpState) :
    state.jsonWord = (if state = .active then "active" else "old_unused").toList := by
  cases state <;> rfl

/-! ## What a command asks for -/

namespace Command

/-- The request of a command that makes a call. -/
def request? : Command → Option Request
  | names _ => some .names
  | dump _ => some .dump
  | port name => some (.nodeInfo name)
  | stop name => some (.stop name)
  | kill => some .kill
  | help | unknown _ => none

/-- A reply gives a command what it asked for: a listing, a node, or the word STOPPED or OK and nothing more. -/
def Grants (reply : Bytes) : Command → Prop
  | names _ => ∃ listing, NameListing.decode reply = .ok listing
  | dump _ => ∃ dump, Dump.decode reply = .ok dump
  | port _ => ∃ node, NodeInfo.decode reply = .ok (.found node)
  | stop _ => reply = [83, 84, 79, 80, 80, 69, 68]
  | kill => reply = [79, 75]
  | help | unknown _ => False

/-- An output shows what a reply gives a command. Each entry of a listing has a line of its own; in a dump the active
entries come first, and both groups are counted and keep the order of the reply. As JSON a listing is one object, with
the port of the daemon and an object for each entry, in the order of the reply. -/
def Shows (reply : Bytes) (output : Text) : Command → Prop
  | names false => ∃ listing, NameListing.decode reply = .ok listing ∧
      output.lines =
        ("epmd: up and running on port ".toList ++ Text.Decimal.write listing.daemonPort.toNat ++
          " with data:".toList) :: listing.nodes.map NamedPort.line
  | names true => ∃ listing, NameListing.decode reply = .ok listing ∧
      output = Json.render 0 (.object [("port", .number listing.daemonPort.toNat),
        ("nodes", .list (listing.nodes.map fun entry =>
          .object [("name", .text entry.name), ("port", .number entry.port.toNat)]))]) ++ ['\n']
  | dump false => ∃ dump active old, Dump.decode reply = .ok dump ∧
      active = dump.entries.filter (·.state = .active) ∧ old = dump.entries.filter (·.state = .oldUnused) ∧
      (active ++ old).Perm dump.entries ∧
      output.lines =
        ["epmd: dumping database on port ".toList ++ Text.Decimal.write dump.daemonPort.toNat] ++
        ["Active names (".toList ++ Text.Decimal.write active.length ++ "):".toList] ++
        active.map ("  ".toList ++ DumpEntry.line ·) ++
        ["Old/unused names (".toList ++ Text.Decimal.write old.length ++ "):".toList] ++
        old.map ("  ".toList ++ DumpEntry.line ·)
  | dump true => ∃ dump, Dump.decode reply = .ok dump ∧
      output = Json.render 0 (.object [("port", .number dump.daemonPort.toNat),
        ("entries", .list (dump.entries.map fun entry =>
          .object [("state", .text (if entry.state = .active then "active" else "old_unused").toList),
            ("name", .text entry.name), ("port", .number entry.port.toNat), ("fd", .number entry.fd.toNat)]))]) ++
        ['\n']
  | port _ => ∃ node, NodeInfo.decode reply = .ok (.found node) ∧
      output.lines = [Text.Decimal.write node.port.toNat]
  | stop _ => output.lines = ["STOPPED".toList]
  | kill => output.lines = ["OK".toList]
  | help | unknown _ => False

/-- A command makes one call, reads the reply by `decode` and ends as `present` makes of it: with 0 if it got what it
asked for, which is shown, and otherwise with 1. -/
structure Asks {α : Type} (command : Command) (request : Request) (decode : Bytes → Except WireError α)
    (present : α → Outcome) : Prop where
  run_eq : ∀ client network, command.run client network = conclude (client.ask request decode network) present
  exit : ∀ value, (present value).exit = 0 ∨ (present value).exit = 1
  grants : ∀ reply, command.Grants reply ↔ ∃ value, decode reply = .ok value ∧ (present value).exit = 0
  shown : ∀ reply value, decode reply = .ok value → (present value).exit = 0 →
    command.Shows reply (present value).output

end Command

variable {command : Command} {request : Request} {client : Client} {network : Network}

theorem asks_names (json : Bool) : (Command.names json).Asks .names NameListing.decode fun listing =>
    ⟨0, unlines (if json then [listing.toJson.render 0] else nameLines listing), []⟩ where
  run_eq _ _ := rfl
  exit _ := .inl rfl
  grants _ := exists_congr fun _ => (and_iff_left rfl).symm
  shown reply listing decoded _ := by
    cases json with
    | false => exact ⟨listing, decoded, lines_nameLines decoded⟩
    | true => exact ⟨listing, decoded, List.flatMap_singleton _ _⟩

theorem asks_dump (json : Bool) : (Command.dump json).Asks .dump Dump.decode fun dump =>
    ⟨0, unlines (if json then [dump.toJson.render 0] else dumpLines dump), []⟩ where
  run_eq _ _ := rfl
  exit _ := .inl rfl
  grants _ := exists_congr fun _ => (and_iff_left rfl).symm
  shown reply dump decoded _ := by
    cases json with
    | false =>
      refine ⟨dump, _, _, decoded, rfl, rfl, entries_perm dump, (lines_dumpLines decoded).trans ?_⟩
      simp only [dumpLines, stateLines, List.cons_append, List.nil_append, List.append_assoc, Dump.entriesIn]
      rfl
    | true =>
      refine ⟨dump, decoded, (List.flatMap_singleton _ _).trans ?_⟩
      simp only [Dump.toJson, jsonWord_eq]

theorem asks_port (name : Text) : (Command.port name).Asks (.nodeInfo name) NodeInfo.decode fun info =>
    match info with
    | .found node => ⟨0, unlines [Text.Decimal.write node.port.toNat], []⟩
    | .notFound => ⟨1, [], unlines ["epmd: node ".toList ++ name ++ " not found".toList]⟩ where
  run_eq _ _ := rfl
  exit info := by
    cases info with
    | found node => exact .inl rfl
    | notFound => exact .inr rfl
  grants reply := by
    constructor
    · rintro ⟨node, decoded⟩
      exact ⟨_, decoded, rfl⟩
    · rintro ⟨node | _, decoded, exit⟩
      · exact ⟨node, decoded⟩
      · cases exit
  shown reply info decoded exit := by
    cases info with
    | found node =>
      refine ⟨node, decoded, lines_unlines (List.forall_mem_singleton.mpr ?_)⟩
      exact isLine_append_write (show '\n' ∉ ([] : Text) from List.not_mem_nil) _
    | notFound => cases exit

theorem asks_stop (name : Text) : (Command.stop name).Asks (.stop name) StopReply.decode fun word =>
    ⟨if word = .stopped then 0 else 1, unlines [word.word.toList], []⟩ where
  run_eq _ _ := rfl
  exit word := by cases word <;> decide
  grants reply := by
    constructor
    · rintro rfl
      exact ⟨.stopped, rfl, rfl⟩
    · rintro ⟨_ | _, decoded, exit⟩
      · exact StopReply.decode_ok.mp decoded
      · cases exit
  shown reply word decoded exit := by
    cases word with
    | stopped => rfl
    | notThere => cases exit

theorem asks_kill : Command.kill.Asks .kill KillReply.decode fun word =>
    ⟨if word = .ok then 0 else 1, unlines [word.word.toList], []⟩ where
  run_eq _ _ := rfl
  exit word := by cases word <;> decide
  grants reply := by
    constructor
    · rintro rfl
      exact ⟨.ok, rfl, rfl⟩
    · rintro ⟨_ | _, decoded, exit⟩
      · exact KillReply.decode_ok.mp decoded
      · cases exit
  shown reply word decoded exit := by
    cases word with
    | ok => rfl
    | notOk => cases exit

/-- A command that makes a call makes one, and ends with 0 or 1 if it has a result. -/
theorem exists_asks (calls : command.request? = some request) :
    ∃ (α : Type) (decode : Bytes → Except WireError α) (present : α → Outcome),
      command.Asks request decode present := by
  cases command with
  | names json =>
    cases calls
    exact ⟨_, _, _, asks_names json⟩
  | dump json =>
    cases calls
    exact ⟨_, _, _, asks_dump json⟩
  | port name =>
    cases calls
    exact ⟨_, _, _, asks_port name⟩
  | stop name =>
    cases calls
    exact ⟨_, _, _, asks_stop name⟩
  | kill =>
    cases calls
    exact ⟨_, _, _, asks_kill⟩
  | help => cases calls
  | unknown words => cases calls

/-! ## The exit code of a call -/

section

variable {frame reply : Bytes}

/-- A request that cannot be written is not sent. -/
theorem run_of_unwritten {error : WireError} (calls : command.request? = some request)
    (unwritten : request.encode = .error error) :
    command.run client network = (none, ⟨1, [], complaint (ClientError.malformed error).report⟩) := by
  obtain ⟨_, decode, present, asks⟩ := exists_asks calls
  rw [asks.run_eq, Client.ask_of_unwritten unwritten]
  rfl

/-- The bytes that come before the daemon closes decide between 0 and 1. -/
theorem run_of_closes (client : Client) (calls : command.request? = some request)
    (wrote : request.encode = .ok frame) (closes : (network frame).Closes reply) :
    let ended := command.run client network
    ended.1 = some frame ∧ (ended.2.exit = 0 ↔ command.Grants reply) ∧
      (ended.2.exit = 1 ↔ ¬ command.Grants reply) ∧ (command.Grants reply → command.Shows reply ended.2.output) := by
  obtain ⟨α, decode, present, asks⟩ := exists_asks calls
  rw [asks.run_eq, Client.ask_of_closes wrote closes, asks.grants]
  cases decoded : decode reply with
  | error error =>
    have concluded : conclude ⟨some frame, Except.mapError ClientError.malformed (.error error)⟩ present =
        (some frame, ⟨1, [], complaint (ClientError.malformed error).report⟩) := rfl
    have denied : ¬ ∃ read, (.error error : Except WireError α) = .ok read ∧ (present read).exit = 0 := by simp
    have differs : (1 : UInt8) ≠ 0 := by decide
    rw [concluded]
    exact ⟨rfl, iff_of_false differs denied, iff_of_true rfl denied, fun granted => absurd granted denied⟩
  | ok value =>
    have concluded : conclude ⟨some frame, Except.mapError ClientError.malformed (.ok value)⟩ present =
        (some frame, present value) := rfl
    have granted : (∃ read, (.ok value : Except WireError α) = .ok read ∧ (present read).exit = 0) ↔
        (present value).exit = 0 := by simp
    rw [concluded, granted]
    refine ⟨rfl, Iff.rfl, ?_, asks.shown reply value decoded⟩
    rcases asks.exit value with exit | exit
    · rw [exit]
      decide
    · rw [exit]
      decide

/-- A call that does not end with the daemon closing ends with 2. -/
theorem exit_of_not_closes (calls : command.request? = some request) (wrote : request.encode = .ok frame)
    (waits : ∀ reply, ¬ (network frame).Closes reply) : (command.run client network).2.exit = 2 := by
  obtain ⟨_, decode, present, asks⟩ := exists_asks calls
  obtain ⟨error, failed, connection⟩ : ∃ error, (client.ask request decode network).result = .error error ∧
      error.isConnection = true := Client.ask_of_not_closes wrote waits
  rw [asks.run_eq, conclude, failed]
  exact if_pos connection

/-- The exit code is 2 exactly if a request was written and the daemon did not close behind a reply. -/
theorem exit_eq_two :
    (command.run client network).2.exit = 2 ↔
      ∃ request frame, command.request? = some request ∧ request.encode = .ok frame ∧
        ∀ reply, ¬ (network frame).Closes reply := by
  constructor
  · intro exit
    cases calls : command.request? with
    | none =>
      -- A command without a call ends with 0 or 1.
      cases command <;> cases calls <;> cases exit
    | some request =>
      cases wrote : request.encode with
      | error error =>
        rw [run_of_unwritten calls wrote] at exit
        cases exit
      | ok frame =>
        refine ⟨request, frame, rfl, wrote, fun reply closes => ?_⟩
        obtain ⟨_, granted, denied, _⟩ := run_of_closes client calls wrote closes
        by_cases grants : command.Grants reply
        · cases exit.symm.trans (granted.mpr grants)
        · cases exit.symm.trans (denied.mpr grants)
  · rintro ⟨request, frame, calls, wrote, waits⟩
    exact exit_of_not_closes calls wrote waits

/-- A program that fails before it carries a command out ends with 1. -/
theorem exit_of_finish {arguments : List Text} {env : Environment} {files : Text → Settings.File} {outcome : Outcome}
    (planned : plan arguments env files = .finish outcome) : outcome.exit = 1 := by
  unfold plan at planned
  split at planned
  · cases planned
    rfl
  · split at planned
    · cases planned
      rfl
    · cases planned

end

/-- Whatever the arguments, the environment and the files make the control program do: if a command makes a call and the
daemon closes, the bytes before that decide, in whatever chunks they come. The program ends with 0 if they are STOPPED, OK, a node that was found or a
listing, according to the command, which it then shows, and with 1 for all other bytes. A request that cannot be written
is not sent, however the daemon would take it, and the program ends with 1. It ends with 2 exactly if a request was
written and the daemon could not be reached, the connection broke or the daemon did not close in time. -/
theorem exit_code_tells_answers_apart (arguments : List Text) (env : Environment) (files : Text → Settings.File)
    (network : SocketAddress → Network) :
    let ended := run arguments env files network
    (∀ settings command request, plan arguments env files = .execute settings command →
      command.request? = some request →
      (∀ frame reply, request.encode = .ok frame → (network settings.daemon frame).Closes reply →
        ended.1 = some frame ∧ (ended.2.exit = 0 ↔ command.Grants reply) ∧
        (ended.2.exit = 1 ↔ ¬ command.Grants reply) ∧ (command.Grants reply → command.Shows reply ended.2.output)) ∧
      (∀ error, request.encode = .error error →
        ended = (none, ⟨1, [], complaint (ClientError.malformed error).report⟩))) ∧
    (ended.2.exit = 2 ↔ ∃ settings command request frame, plan arguments env files = .execute settings command ∧
      command.request? = some request ∧ request.encode = .ok frame ∧
      ∀ reply, ¬ (network settings.daemon frame).Closes reply) := by
  intro ended
  cases planned : plan arguments env files with
  | finish outcome =>
    have same : ended.2.exit = 1 := by
      simp only [ended, run, planned]
      exact exit_of_finish planned
    refine ⟨fun _ _ _ executed => (nomatch executed), ?_⟩
    rw [same]
    refine iff_of_false (by decide) ?_
    rintro ⟨_, _, _, _, executed, _⟩
    cases executed
  | execute settings command =>
    have same : ended = command.run ⟨settings, []⟩ (network settings.daemon) := by
      simp only [ended, run, planned]
    rw [same]
    refine ⟨?_, ?_⟩
    · rintro _ _ request ⟨⟩ calls
      exact ⟨fun frame reply wrote closes => run_of_closes _ calls wrote closes,
        fun error unwritten => run_of_unwritten calls unwritten⟩
    · rw [exit_eq_two]
      constructor
      · rintro ⟨request, frame, calls, wrote, waits⟩
        exact ⟨settings, command, request, frame, rfl, calls, wrote, waits⟩
      · rintro ⟨_, _, request, frame, ⟨⟩, calls, wrote, waits⟩
        exact ⟨request, frame, calls, wrote, waits⟩

/-- A dump in which a node that left comes before a registered one. -/
def unsorted : Dump :=
  ⟨4369, [⟨.oldUnused, ['b'], 9, 1⟩, ⟨.active, ['a'], 7, 8⟩]⟩

/-- A daemon on this host that sends the dump to whoever asks it for anything; no other host has a daemon. -/
def muddled (daemon : SocketAddress) : Network :=
  fun _ =>
    match unsorted.encode with
    | .ok reply => if daemon.ip = .loopback ∧ daemon.port = 9 then .closed reply else .unreachable "refused"
    | .error _ => .unreachable "refused"

/-- A dump is shown with its registered entry first; the same bytes are no answer for a stop, which ends with 1, as does
a lookup of a name that no request can hold; and a daemon that cannot be reached makes it 2. -/
theorem exit_code_tells_answers_apart_of_muddled :
    let control (words : List String) := run (words.map String.toList) (fun _ => none) (fun _ => .absent) muddled
    ((control ["--port", "9", "dump"]).1 = some [0, 1, 100] ∧ (control ["--port", "9", "dump"]).2.exit = 0 ∧
      (control ["--port", "9", "dump"]).2.output.lines =
        ["epmd: dumping database on port 4369".toList,
          "Active names (1):".toList, "  active name\ta at port 7, fd = 8".toList,
          "Old/unused names (1):".toList, "  old/unused name\tb at port 9, fd = 1".toList]) ∧
    (control ["--port", "9", "stop", "a"]).2.exit = 1 ∧
    (control ["--port", "9", "port", "ā"]).1 = none ∧ (control ["--port", "9", "port", "ā"]).2.exit = 1 ∧
    (control ["stop", "a"]).2.exit = 2 := by
  intro control
  let settings : ClientSettings := { port := 9 }
  obtain ⟨reply, wrote⟩ : ∃ reply, unsorted.encode = .ok reply := ⟨_, rfl⟩
  have read : Dump.decode reply = .ok unsorted := (Dump.decode_encode_iff wrote).mpr (by decide)
  have closes (frame : Bytes) : (muddled settings.daemon frame).Closes reply := by
    unfold muddled
    rw [wrote]
    exact Exchange.closes_closed reply
  have apart (words : List String) :=
    exit_code_tells_answers_apart (words.map String.toList) (fun _ => none) (fun _ => .absent) muddled
  obtain ⟨dumps, _⟩ := apart ["--port", "9", "dump"]
  obtain ⟨sent, granted, _, shown⟩ := (dumps settings (.dump false) .dump rfl rfl).1 [0, 1, 100] reply rfl (closes _)
  obtain ⟨dump, active, old, decoded, rfl, rfl, _, lines⟩ := shown ⟨unsorted, read⟩
  cases read.symm.trans decoded
  obtain ⟨stops, _⟩ := apart ["--port", "9", "stop", "a"]
  obtain ⟨_, _, denied, _⟩ := (stops settings (.stop ['a']) (.stop ['a']) rfl rfl).1 _ reply rfl (closes _)
  have other : ¬ (Command.stop ['a']).Grants reply := by
    rintro rfl
    cases read
  obtain ⟨looks, _⟩ := apart ["--port", "9", "port", "ā"]
  have unwritten := (looks settings (.port ['ā']) (.nodeInfo ['ā']) rfl rfl).2 _ rfl
  obtain ⟨_, unreachable⟩ := apart ["stop", "a"]
  refine ⟨⟨sent, granted.mpr ⟨unsorted, read⟩, lines.trans (by decide)⟩, denied.mpr other,
    congrArg Prod.fst unwritten, congrArg (·.2.exit) unwritten, unreachable.mpr ?_⟩
  exact ⟨{}, .stop ['a'], .stop ['a'], [0, 2, 115, 97], rfl, rfl, rfl, fun reply => nofun⟩

end Control

end PortMapper
