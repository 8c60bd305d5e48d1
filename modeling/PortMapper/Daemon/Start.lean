import PortMapper.Address.Printer
import PortMapper.Daemon.Arguments

/-!
# Starting the daemon

Arguments come first: if they are wrong, or ask for help, nothing else is looked at. Then the settings are
loaded, and then the daemon listens, which can fail as well.
-/

namespace PortMapper.Daemon

/-- What the daemon says when it is asked for help. -/
def usage : Text :=
  ("epmdd: Erlang port mapper daemon\n\n" ++
    "USAGE:\n" ++
    "  epmdd [-port <port>] [-address <ip>[,<ip>...]] [-relaxed_command_check] [-d]\n\n" ++
    "OPTIONS:\n" ++
    "  -port <port>              Listen port (default 4369, or $ERL_EPMD_PORT)\n" ++
    "  -address <list>           Source addresses allowed to connect\n" ++
    "  -relaxed_command_check    Allow kill and stop requests\n" ++
    "  -d, --debug               Log at debug level\n\n" ++
    "Config file: $EPMD_CONFIG or ~/.config/epmd/config.toml\n").toList

/-- How the daemon starts. -/
inductive Start
  /-- It ends at once. -/
  | finish (outcome : Outcome)
  /-- It listens with these settings. -/
  | listen (settings : Settings)
  deriving DecidableEq, Repr

/-- The end of a daemon that failed. -/
def failed (report : Report) : Outcome :=
  ⟨1, [], report.block⟩

/-- The end of a daemon that could not listen. -/
def bindFailed (address : SocketAddress) (cause : String) : Outcome :=
  failed ⟨"failed to bind ".toList ++ address.text, some cause.toList⟩

/-- How the daemon starts with some arguments, in an environment, given what is at each path. -/
def start (arguments : List Text) (env : Environment) (files : Text → Settings.File) : Start :=
  match Arguments.ofList arguments with
  | .error error => .finish (failed error.report)
  | .ok asked =>
    if asked.help then .finish ⟨0, usage, []⟩
    else
      match Settings.load env files with
      | .error error =>
        .finish (failed ⟨"failed to load config".toList, some error.message⟩)
      | .ok settings => .listen (asked.apply settings)

/-- Where a daemon with some settings listens. -/
def listenAddress (settings : Settings) : SocketAddress :=
  { ip := settings.server.listenAddress, port := settings.server.port }

end PortMapper.Daemon
