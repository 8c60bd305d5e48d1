import PortMapper.Client.Basic
import PortMapper.Reply.Json

/-!
# Commands of the control program

Each command but help makes one call and shows its result. A command ends with 0 if the daemon did what it
was asked or knew the answer, with 1 if the daemon refused, did not know or made no sense, and with 2 if
the daemon could not be reached.
-/

namespace PortMapper.Control

/-- What the control program can be told to do. -/
inductive Command
  | names (json : Bool)
  | dump (json : Bool)
  /-- The port of a node. -/
  | port (name : Text)
  | stop (name : Text)
  | kill
  | help
  /-- Words that are no command. -/
  | unknown (words : List Text)
  deriving DecidableEq, Repr

namespace Command

/-- The command that a first word without further words is. -/
def ofWord? (word : Text) : Option Command :=
  match String.ofList word with
  | "names" => some (names false)
  | "dump" => some (dump false)
  | "kill" => some kill
  | "help" | "--help" | "-h" => some help
  | _ => none

/-- The command that a first word with one further word is. -/
def ofWords? (word more : Text) : Option Command :=
  match String.ofList word with
  | "names" => if more = "--json".toList then some (names true) else none
  | "dump" => if more = "--json".toList then some (dump true) else none
  | "port" => some (port more)
  | "stop" => some (stop more)
  | _ => none

/-- The command that some words are. No words ask for the names. -/
def ofList (words : List Text) : Command :=
  match words with
  | [] => names false
  | [word] => (ofWord? word).getD (unknown words)
  | [word, more] => (ofWords? word more).getD (unknown words)
  | _ => unknown words

end Command

/-- What the control program says when it is asked for help. -/
def usage : Text :=
  ("epmd-ctl: talk to a running epmd\n\n" ++
    "USAGE:\n" ++
    "  epmd-ctl [--host <ip>] [--port <port>] [-d] <command>\n\n" ++
    "COMMANDS:\n" ++
    "  names [--json]     Registered nodes and their ports\n" ++
    "  dump [--json]      Active and old registrations\n" ++
    "  port <name>        Port of one node\n" ++
    "  stop <name>        Unregister a node (daemon needs -relaxed_command_check)\n" ++
    "  kill               Stop the daemon (daemon needs -relaxed_command_check)\n" ++
    "  help               Show this message\n").toList

/-- Lines, each with its end. -/
def unlines (lines : List Text) : Text :=
  lines.flatMap (· ++ ['\n'])

/-- The lines that show a name listing. -/
def nameLines (listing : NameListing) : List Text :=
  ("epmd: up and running on port ".toList ++ Text.Decimal.write listing.daemonPort.toNat ++
    " with data:".toList) :: listing.nodes.map NamedPort.line

/-- The lines that show the entries of a dump in one state, below a title. -/
def stateLines (title : String) (entries : List DumpEntry) : List Text :=
  (title.toList ++ " (".toList ++ Text.Decimal.write entries.length ++ "):".toList) ::
    entries.map fun entry => "  ".toList ++ entry.line

/-- The lines that show a dump: active entries come first. -/
def dumpLines (dump : Dump) : List Text :=
  ("epmd: dumping database on port ".toList ++ Text.Decimal.write dump.daemonPort.toNat) ::
    stateLines "Active names" (dump.entriesIn .active) ++
    stateLines "Old/unused names" (dump.entriesIn .oldUnused)

/-- A report on a line of its own, behind the name of the program. -/
def complaint (report : Report) : Text :=
  unlines ["epmd-ctl: ".toList ++ report.line]

/-- The end of a program that failed before any call. -/
def failed (report : Report) : Outcome :=
  ⟨1, [], complaint report⟩

/-- The exit code for a failed call: 2 if the daemon could not be reached. -/
def exitCode (error : ClientError) : UInt8 :=
  if error.isConnection then 2 else 1

/-- The outcome of a call: a failure is reported, a result is shown. -/
def conclude {α : Type} (call : Call α) (present : α → Outcome) : Option Bytes × Outcome :=
  (call.sent,
    match call.result with
    | .ok value => present value
    | .error error => ⟨exitCode error, [], complaint error.report⟩)

namespace Command

/-- Carries a command out: what was sent to the daemon, and the outcome. -/
def run (client : Client) (network : Network) : Command → Option Bytes × Outcome
  | names json =>
    conclude (client.names network) fun listing =>
      ⟨0, unlines (if json then [listing.toJson.render 0] else nameLines listing), []⟩
  | dump json =>
    conclude (client.dump network) fun dump =>
      ⟨0, unlines (if json then [dump.toJson.render 0] else dumpLines dump), []⟩
  | port name =>
    conclude (client.lookup name network) fun info =>
      match info with
      | .found node => ⟨0, unlines [Text.Decimal.write node.port.toNat], []⟩
      | .notFound =>
        ⟨1, [], unlines ["epmd: node ".toList ++ name ++ " not found".toList]⟩
  | stop name =>
    conclude (client.stop name network) fun reply =>
      ⟨if reply = .stopped then 0 else 1, unlines [reply.word.toList], []⟩
  | kill =>
    conclude (client.kill network) fun reply =>
      ⟨if reply = .ok then 0 else 1, unlines [reply.word.toList], []⟩
  | help => (none, ⟨0, usage, []⟩)
  | unknown words =>
    (none, ⟨1, usage, unlines ["Unknown command: ".toList ++ [' '].intercalate words, []]⟩)

end Command

end PortMapper.Control
