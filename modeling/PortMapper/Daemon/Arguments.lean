import PortMapper.Report
import PortMapper.Settings.Environment

/-!
# Arguments of the daemon

A list of arguments is a list of flags: keywords with any number of dashes in front, of which some take the
next argument as their value, whatever it looks like. The last value for a keyword counts. Arguments win
over the environment and the settings document.
-/

namespace PortMapper.Daemon

/-- What the arguments ask for. -/
structure Arguments where
  port : Option UInt16 := none
  allowed : Option (List IpAddress) := none
  relaxed : Bool := false
  debug : Bool := false
  help : Bool := false
  deriving DecidableEq, Repr

/-- Why arguments mean nothing. -/
inductive ArgumentError
  | missingPort
  | invalidPort (reason : Text.Decimal.Failure)
  | missingAddress
  | invalidAddress (value : Text)
  | unknown (argument : Text)
  deriving DecidableEq, Repr

def ArgumentError.report : ArgumentError → Report
  | .missingPort => ⟨"-port requires a value".toList, none⟩
  | .invalidPort reason => ⟨"-port must be a number".toList, some reason.message.toList⟩
  | .missingAddress => ⟨"-address requires a value".toList, none⟩
  | .invalidAddress value =>
    ⟨"-address: cannot parse ".toList ++ Text.Quoted.text value, none⟩
  | .unknown argument => ⟨"unknown argument ".toList ++ Text.Quoted.text argument, none⟩

/-- The keywords that an argument can be. -/
inductive Keyword
  | port
  | address
  | relaxed
  | debug
  | help
  deriving DecidableEq, Repr

/-- The keyword that an argument is, whatever dashes stand in front. -/
def Keyword.ofText? (argument : Text) : Option Keyword :=
  match String.ofList (argument.dropWhile (· == '-')) with
  | "port" => some port
  | "address" => some address
  | "relaxed_command_check" => some relaxed
  | "d" | "debug" => some debug
  | "h" | "help" => some help
  | _ => none

namespace Arguments

/-- What arguments ask for beyond what was asked for already. -/
def addAll (asked : Arguments) : List Text → Except ArgumentError Arguments
  | [] => .ok asked
  | argument :: rest =>
    match Keyword.ofText? argument with
    | none => .error (.unknown argument)
    | some .relaxed => addAll { asked with relaxed := true } rest
    | some .debug => addAll { asked with debug := true } rest
    | some .help => addAll { asked with help := true } rest
    | some .port =>
      match rest with
      | [] => .error .missingPort
      | value :: rest =>
        match Text.Decimal.readUInt16 value with
        | .error reason => .error (.invalidPort reason)
        | .ok port => addAll { asked with port := some port } rest
    | some .address =>
      match rest with
      | [] => .error .missingAddress
      | value :: rest =>
        match IpAddress.listOfText? value with
        | none => .error (.invalidAddress value)
        | some allowed => addAll { asked with allowed := some allowed } rest

/-- What arguments ask for. -/
def ofList (arguments : List Text) : Except ArgumentError Arguments :=
  addAll {} arguments

/-- Settings with what the arguments ask for. -/
def apply (asked : Arguments) (settings : Settings) : Settings where
  server := { settings.server with
    port := asked.port.getD settings.server.port
    allowed := asked.allowed.getD settings.server.allowed
    relaxed := asked.relaxed || settings.server.relaxed }
  client := settings.client
  log := ⟨asked.debug || settings.log.debug⟩

end Arguments

end PortMapper.Daemon
