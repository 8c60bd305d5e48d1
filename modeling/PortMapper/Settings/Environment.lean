import PortMapper.Settings.Reading
import PortMapper.Text.Quoted
import PortMapper.Text.Utf8

/-!
# Settings from outside

Where the settings of a process come from: a file, and variables of its environment, which win. A variable
with a value that does not fit is an error; what earlier variables changed stays changed.
-/

namespace PortMapper

/-- The variables of a process that are set, and their values. -/
abbrev Environment := String → Option Text

/-- Why settings could not be had. -/
inductive SettingsError
  /-- There is something at the path, but no text. -/
  | unreadable (path : Text) (cause : String)
  /-- The text at the path is no settings document. -/
  | malformed (path : Text)
  /-- A variable has a value that does not fit. -/
  | invalidVariable (name : String) (value : Text)
  deriving DecidableEq, Repr

def SettingsError.message : SettingsError → Text
  | .unreadable path cause => "failed to read ".toList ++ path ++ s!": {cause}".toList
  | .malformed path => "failed to parse ".toList ++ path
  | .invalidVariable name value =>
    "invalid value ".toList ++ Text.Quoted.text value ++ s!" for {name}".toList

namespace Environment

/-- The variable for the port, of the daemon and for its clients. -/
def portVariable : String := "ERL_EPMD_PORT"

def addressVariable : String := "ERL_EPMD_ADDRESS"

/-- The variable that, with any value, makes the daemon obey kill and stop. -/
def relaxedVariable : String := "ERL_EPMD_RELAXED_COMMAND_CHECK"

/-- The variable for the path of the settings document. -/
def pathVariable : String := "EPMD_CONFIG"

/-- The variable for the directory of a user's settings. -/
def directoryVariable : String := "XDG_CONFIG_HOME"

def homeVariable : String := "HOME"

/-- The names of all variables that count. -/
def variableNames : List String :=
  [portVariable, addressVariable, relaxedVariable, pathVariable, directoryVariable, homeVariable]

end Environment

namespace Settings

/-- Gives both ports the value that a variable has. Blanks around it do not count. -/
def overridePort (env : Environment) (settings : Settings) : Except SettingsError Settings :=
  match env Environment.portVariable with
  | none => .ok settings
  | some value =>
    match Text.Decimal.readUInt16 (Text.trim value) with
    | .ok port =>
      .ok { settings with
        server := { settings.server with port }, client := { settings.client with port } }
    | .error _ => .error (.invalidVariable Environment.portVariable value)

/-- Gives the allow list the value that a variable has. -/
def overrideAllowed (env : Environment) (settings : Settings) : Except SettingsError Settings :=
  match env Environment.addressVariable with
  | none => .ok settings
  | some value =>
    match IpAddress.listOfText? value with
    | some allowed => .ok { settings with server := { settings.server with allowed } }
    | none => .error (.invalidVariable Environment.addressVariable value)

/-- Lets the daemon obey kill and stop if a variable is set. -/
def overrideRelaxed (env : Environment) (settings : Settings) : Settings :=
  if (env Environment.relaxedVariable).isSome then
    { settings with server := { settings.server with relaxed := true } }
  else settings

/-- Settings after the variables of an environment, up to the first that does not fit. -/
def override (env : Environment) (settings : Settings) : Settings × Option SettingsError :=
  match settings.overridePort env with
  | .error error => (settings, some error)
  | .ok settings =>
    -- The ports keep their new value even if the allow list fails.
    match settings.overrideAllowed env with
    | .error error => (settings, some error)
    | .ok settings => (settings.overrideRelaxed env, none)

/-! ## The file -/

/-- A name below a directory. -/
def join (directory name : Text) : Text :=
  if directory.isEmpty ∨ directory.getLast? = some '/' then directory ++ name
  else directory ++ '/' :: name

/-- The directory for a user's settings. -/
def userDirectory (env : Environment) : Text :=
  (env Environment.directoryVariable).getD
    (join ((env Environment.homeVariable).getD "/tmp".toList) ".config".toList)

/-- Where the settings document is. -/
def location (env : Environment) : Text :=
  (env Environment.pathVariable).getD
    (join (join (userDirectory env) "epmd".toList) "config.toml".toList)

/-- What is at a path. -/
inductive File
  | absent
  /-- Something whose content cannot be had, such as a directory. -/
  | unreadable (cause : String)
  | content (bytes : Bytes)
  deriving DecidableEq, Repr

/-- The settings of a file; an absent file sets nothing. -/
def ofFile (path : Text) : File → Except SettingsError Settings
  | .absent => .ok {}
  | .unreadable cause => .error (.unreadable path cause)
  | .content bytes =>
    match Text.Utf8.decode? bytes with
    | none => .error (.unreadable path "stream did not contain valid UTF-8")
    | some text =>
      match ofText? text with
      | some settings => .ok settings
      | none => .error (.malformed path)

/-- The settings in force in an environment, given what is at each path. -/
def load (env : Environment) (files : Text → File) : Except SettingsError Settings := do
  let path := location env
  let settings ← ofFile path (files path)
  match settings.override env with
  | (settings, none) => return settings
  | (_, some error) => throw error

end Settings

end PortMapper
