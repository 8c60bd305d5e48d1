import PortMapper.Control.Arguments
import PortMapper.Control.Command

/-!
# The control program

The settings are loaded first, then the arguments are read, and then the command is carried out. Whatever
fails first is reported, and nothing after it is done.
-/

namespace PortMapper.Control

/-- What the control program does. -/
inductive Plan
  /-- It ends at once. -/
  | finish (outcome : Outcome)
  /-- It carries a command out, as a client with these settings. -/
  | execute (settings : ClientSettings) (command : Command)
  deriving DecidableEq, Repr

/-- What the control program does with some arguments, in an environment, given what is at each path. -/
def plan (arguments : List Text) (env : Environment) (files : Text → Settings.File) : Plan :=
  match Settings.load env files with
  | .error error => .finish (failed ⟨"failed to load config".toList, some error.message⟩)
  | .ok settings =>
    match Arguments.ofList settings arguments with
    | .error error => .finish (failed error.report)
    | .ok said => .execute said.client (Command.ofList said.words)

/-- The control program: what is sent to the daemon, and the outcome. How frames fare depends on where the
daemon is. -/
def run (arguments : List Text) (env : Environment) (files : Text → Settings.File)
    (network : SocketAddress → Network) : Option Bytes × Outcome :=
  match plan arguments env files with
  | .finish outcome => (none, outcome)
  | .execute settings command => command.run ⟨settings, []⟩ (network settings.daemon)

end PortMapper.Control
