import PortMapper.Address.Printer
import PortMapper.Report
import PortMapper.Text.Duration
import PortMapper.WireError

/-!
# Client errors

Why a call to a daemon had no good result. Either the daemon could not be reached, or it was reached and its
answer is of no use or a refusal; `isConnection` tells the two apart.
-/

namespace PortMapper

/-- Why a call failed. -/
inductive ClientError
  /-- No connection to the daemon could be made. -/
  | unreachable (daemon : SocketAddress) (cause : String)
  /-- A part of the call took longer than so many milliseconds. -/
  | timedOut (part : String) (after : Nat)
  /-- The connection broke. -/
  | broken (cause : String)
  /-- The request cannot be written, or the reply cannot be read. -/
  | malformed (error : WireError)
  /-- This client holds the name already. -/
  | nameConflict (name : Text)
  /-- The daemon did not accept the registration. -/
  | refused (name : Text)
  deriving DecidableEq, Repr

namespace ClientError

/-- Whether the daemon could not be reached, or the connection to it failed. -/
def isConnection : ClientError → Bool
  | unreachable .. | timedOut .. | broken _ => true
  | malformed _ | nameConflict _ | refused _ => false

def message : ClientError → Text
  | unreachable daemon cause =>
    "failed to connect to epmd at ".toList ++ daemon.text ++ s!": {cause}".toList
  | timedOut part after =>
    s!"{part} timed out after ".toList ++ Text.Duration.ofMilliseconds after
  | broken cause => s!"i/o error: {cause}".toList
  | malformed error => s!"malformed response: {error.message}".toList
  | nameConflict name =>
    "name ".toList ++ Text.Quoted.text name ++ " is already registered by this client".toList
  | refused name => "epmd refused to register ".toList ++ Text.Quoted.text name

/-- An error as a report. What caused it is part of its wording, and is the cause once more. -/
def report (error : ClientError) : Report where
  what := error.message
  cause :=
    match error with
    | unreachable _ cause | broken cause => some cause.toList
    | malformed wire => some wire.message.toList
    | timedOut .. | nameConflict _ | refused _ => none

end ClientError

end PortMapper
