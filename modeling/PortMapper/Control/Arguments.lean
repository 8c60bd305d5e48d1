import PortMapper.Report
import PortMapper.Settings.Environment

/-!
# Arguments of the control program

Flags may stand anywhere among the arguments. Those that take a value take the next argument, whatever it
looks like; the last value counts. What is no flag is a word of the command.
-/

namespace PortMapper.Control

/-- What the arguments say. -/
structure Arguments where
  client : ClientSettings
  /-- Whether details are logged. -/
  debug : Bool
  /-- The words of the command. -/
  words : List Text := []
  deriving DecidableEq, Repr

/-- Why arguments mean nothing. -/
inductive ArgumentError
  | missingPort
  | invalidPort (reason : Text.Decimal.Failure)
  | missingHost
  | invalidHost
  deriving DecidableEq, Repr

def ArgumentError.report : ArgumentError → Report
  | .missingPort => ⟨"--port requires a value".toList, none⟩
  | .invalidPort reason => ⟨"--port must be a number".toList, some reason.message.toList⟩
  | .missingHost => ⟨"--host requires a value".toList, none⟩
  | .invalidHost =>
    ⟨"--host must be an IP address".toList, some IpAddress.syntaxMessage.toList⟩

/-- The flags that an argument can be. -/
inductive Flag
  | port
  | host
  | debug
  deriving DecidableEq, Repr

/-- The flag that an argument is. -/
def Flag.ofText? (argument : Text) : Option Flag :=
  match String.ofList argument with
  | "--port" | "-port" => some port
  | "--host" | "-host" => some host
  | "-d" | "--debug" => some debug
  | _ => none

namespace Arguments

/-- What arguments say beyond what was said already. -/
def addAll (said : Arguments) : List Text → Except ArgumentError Arguments
  | [] => .ok said
  | argument :: rest =>
    match Flag.ofText? argument with
    | none => addAll { said with words := said.words ++ [argument] } rest
    | some .debug => addAll { said with debug := true } rest
    | some .port =>
      match rest with
      | [] => .error .missingPort
      | value :: rest =>
        match Text.Decimal.readUInt16 value with
        | .error reason => .error (.invalidPort reason)
        | .ok port => addAll { said with client := { said.client with port } } rest
    | some .host =>
      match rest with
      | [] => .error .missingHost
      | value :: rest =>
        match IpAddress.ofText? value with
        | none => .error .invalidHost
        | some host => addAll { said with client := { said.client with host } } rest

/-- What arguments say on top of settings. -/
def ofList (settings : Settings) (arguments : List Text) : Except ArgumentError Arguments :=
  addAll ⟨settings.client, settings.log.debug, []⟩ arguments

end Arguments

end PortMapper.Control
