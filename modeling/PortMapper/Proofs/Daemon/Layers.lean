import PortMapper.Daemon.Start
import PortMapper.Proofs.Daemon.Arguments

/-!
# Layers of settings

The settings of a daemon come from a file, its environment and its arguments. If the values in the environment fit
(`Environment.Fits`), each setting is that of the last layer that gives it, and a switch is on if a layer turns it on
(`layered`); otherwise the first value that does not fit is reported (`Environment.FirstMisfit`). This is so for all
arguments that are taken, in whatever order flags with different keywords are mixed (`last_layer_wins`).
-/

namespace PortMapper

/-! ## The environment -/

namespace Environment

variable {env : Environment}

/-- The port that a variable gives, blanks around it apart. -/
def port? (env : Environment) : Option UInt16 :=
  (env portVariable).bind fun value => (Text.Decimal.readUInt16 (Text.trim value)).toOption

/-- The addresses that a variable gives. -/
def allowed? (env : Environment) : Option (List IpAddress) :=
  (env addressVariable).bind IpAddress.listOfText?

/-- The variable for the port is not set, or holds one between blanks. -/
def PortFits (env : Environment) : Prop :=
  ∀ value, env portVariable = some value → ∃ port, Text.Decimal.readUInt16 (Text.trim value) = .ok port

/-- The variable for the addresses is not set, or holds a list of addresses. -/
def AddressFits (env : Environment) : Prop :=
  ∀ value, env addressVariable = some value → ∃ allowed, IpAddress.listOfText? value = some allowed

/-- Each variable that is set has a value that fits. -/
def Fits (env : Environment) : Prop :=
  env.PortFits ∧ env.AddressFits

/-- The first variable that is set to a value that does not fit, and the value. -/
inductive FirstMisfit (env : Environment) : String → Text → Prop
  | port {value : Text} (given : env portVariable = some value)
      (misfit : ∀ port, Text.Decimal.readUInt16 (Text.trim value) ≠ .ok port) : FirstMisfit env portVariable value
  | address {value : Text} (fits : env.PortFits) (given : env addressVariable = some value)
      (misfit : IpAddress.listOfText? value = none) : FirstMisfit env addressVariable value

/-- An environment fits, or a variable is the first that does not. -/
theorem fits_or_misfit (env : Environment) : env.Fits ∨ ∃ name value, env.FirstMisfit name value := by
  by_cases fits : env.PortFits
  · by_cases also : env.AddressFits
    · exact .inl ⟨fits, also⟩
    · obtain ⟨value, given, misfit⟩ : ∃ value, env addressVariable = some value ∧ ¬ _ := by
        simpa only [AddressFits, not_forall, exists_prop] using also
      refine .inr ⟨_, value, .address fits given (Option.eq_none_iff_forall_ne_some.mpr ?_)⟩
      exact fun allowed read => misfit ⟨allowed, read⟩
  · obtain ⟨value, given, misfit⟩ : ∃ value, env portVariable = some value ∧ ¬ _ := by
      simpa only [PortFits, not_forall, exists_prop] using fits
    exact .inr ⟨_, value, .port given fun port read => misfit ⟨port, read⟩⟩

end Environment

namespace Settings

variable {env : Environment} {file : Settings} {name : String} {value : Text}

/-- Both ports of settings are that of the environment, if it gives one. -/
def withPort (file : Settings) (env : Environment) : Settings :=
  { file with
    server := { file.server with port := env.port?.getD file.server.port }
    client := { file.client with port := env.port?.getD file.client.port } }

theorem overridePort_of_fits (fits : env.PortFits) : file.overridePort env = .ok (file.withPort env) := by
  unfold overridePort withPort Environment.port?
  cases given : env Environment.portVariable with
  | none => rfl
  | some value =>
    obtain ⟨port, read⟩ := fits value given
    simp [read, Except.toOption]

theorem overridePort_of_misfit (given : env Environment.portVariable = some value)
    (misfit : ∀ port, Text.Decimal.readUInt16 (Text.trim value) ≠ .ok port) :
    file.overridePort env = .error (.invalidVariable Environment.portVariable value) := by
  unfold overridePort
  rw [given]
  cases read : Text.Decimal.readUInt16 (Text.trim value) with
  | ok port => exact absurd read (misfit port)
  | error reason => simp only [read]

theorem overrideAllowed_of_fits (fits : env.AddressFits) :
    file.overrideAllowed env = .ok { file with
      server := { file.server with allowed := env.allowed?.getD file.server.allowed } } := by
  unfold overrideAllowed Environment.allowed?
  cases given : env Environment.addressVariable with
  | none => rfl
  | some value =>
    obtain ⟨allowed, read⟩ := fits value given
    simp [read]

theorem overrideAllowed_of_misfit (given : env Environment.addressVariable = some value)
    (misfit : IpAddress.listOfText? value = none) :
    file.overrideAllowed env = .error (.invalidVariable Environment.addressVariable value) := by
  unfold overrideAllowed
  rw [given]
  simp only [misfit]

end Settings

namespace Daemon

/-- The settings that a file, an environment and flags give together. The last flag with a value counts, then the
environment, then the file; the client's port is no matter of flags, and a switch is on if it is turned on anywhere. -/
def layered (file : Settings) (env : Environment) (flags : List Flag) : Settings where
  server := { file.server with
    port := ((flags.filterMap Flag.port?).getLast?.or env.port?).getD file.server.port
    allowed := ((flags.filterMap Flag.allowed?).getLast?.or env.allowed?).getD file.server.allowed
    relaxed := decide (.relaxed ∈ flags) || (env Environment.relaxedVariable).isSome || file.server.relaxed }
  client := { file.client with port := env.port?.getD file.client.port }
  log := ⟨decide (.debug ∈ flags) || file.log.debug⟩

variable {env : Environment} {files : Text → Settings.File} {file : Settings} {flags other : List Flag}
  {arguments arguments' : List Text} {name : String} {value : Text}

/-- An environment that fits is a layer over the file. -/
theorem override_of_fits (fits : env.Fits) : file.override env = (layered file env [], none) := by
  unfold Settings.override
  simp only [Settings.overridePort_of_fits fits.1, Settings.overrideAllowed_of_fits fits.2]
  unfold Settings.overrideRelaxed
  split
  · next given => simp [layered, Settings.withPort, given]
  · next absent => simp [layered, Settings.withPort, absent]

theorem override_of_misfit (first : env.FirstMisfit name value) :
    (file.override env).2 = some (.invalidVariable name value) := by
  unfold Settings.override
  cases first with
  | port given misfit => simp only [Settings.overridePort_of_misfit given misfit]
  | address fits given misfit =>
    simp only [Settings.overridePort_of_fits fits, Settings.overrideAllowed_of_misfit given misfit]

section

variable (read : Settings.ofFile (Settings.location env) (files (Settings.location env)) = .ok file)
include read

theorem load_of_fits (fits : env.Fits) : Settings.load env files = .ok (layered file env []) := by
  simp only [Settings.load, read, bind, Except.bind, override_of_fits fits]
  rfl

theorem load_of_misfit (first : env.FirstMisfit name value) :
    Settings.load env files = .error (.invalidVariable name value) := by
  obtain ⟨left, same⟩ : ∃ left, file.override env = (left, some (.invalidVariable name value)) :=
    ⟨_, Prod.ext rfl (override_of_misfit first)⟩
  simp only [Settings.load, read, bind, Except.bind, same]
  rfl

end

/-- Flags are a layer over the others. -/
theorem apply_ofFlags (file : Settings) (env : Environment) (flags : List Flag) :
    (Arguments.ofFlags flags).apply (layered file env []) = layered file env flags := by
  simp [Arguments.apply, Arguments.ofFlags, layered, Option.getD_or, Bool.or_assoc]

/-- A daemon that is not asked for help loads its settings, and listens with what its arguments make of them. -/
theorem start_of_spelled (spelled : Spelled flags arguments) (quiet : .help ∉ flags) :
    start arguments env files =
      match Settings.load env files with
      | .error error => .finish (failed ⟨"failed to load config".toList, some error.message⟩)
      | .ok settings => .listen ((Arguments.ofFlags flags).apply settings) := by
  have helps : (Arguments.ofFlags flags).help = false := decide_eq_false quiet
  simp only [start, Arguments.ofList_of_spelled spelled, helps]
  rfl

/-- Arguments are taken exactly if they spell flags, each keyword behind any number of dashes and each value as it
stands. If the variables of an environment that are set have values that fit, the settings are those of the layers:
the file, the environment and the flags. Otherwise the first variable that does not fit is reported. Flags with
different keywords may be mixed in any way. -/
theorem last_layer_wins :
    (∀ arguments, (∃ asked, Arguments.ofList arguments = .ok asked) ↔ ∃ flags, Spelled flags arguments) ∧
    (∀ flags arguments, Spelled flags arguments →
      ∃ asked, Arguments.ofList arguments = .ok asked ∧ (asked.help = true ↔ .help ∈ flags) ∧
      (∀ file env, Environment.Fits env →
        (Settings.override env file).2 = none ∧
        asked.apply (Settings.override env file).1 = layered file env flags) ∧
      (∀ file env files, Settings.ofFile (Settings.location env) (files (Settings.location env)) = .ok file →
        .help ∉ flags →
        (env.Fits → start arguments env files = .listen (layered file env flags)) ∧
        ∀ name value, env.FirstMisfit name value →
          start arguments env files = .finish (failed
            ⟨"failed to load config".toList, some (SettingsError.invalidVariable name value).message⟩))) ∧
    (∀ file env, (Settings.override env file).2 = none ∧ Environment.Fits env ∨
      ∃ name value, Environment.FirstMisfit env name value ∧
        (Settings.override env file).2 = some (.invalidVariable name value)) ∧
    (∀ flags other arguments arguments', Spelled flags arguments → Spelled other arguments' →
      SameByKeyword flags other →
      Arguments.ofList arguments = Arguments.ofList arguments' ∧
      ∀ env files, start arguments env files = start arguments' env files) := by
  refine ⟨fun arguments => ⟨?_, ?_⟩, fun flags arguments spelled => ?_, fun file env => ?_, ?_⟩
  · rintro ⟨asked, taken⟩
    obtain ⟨flags, spelled, _⟩ := Arguments.ofList_ok.mp taken
    exact ⟨flags, spelled⟩
  · rintro ⟨flags, spelled⟩
    exact ⟨_, Arguments.ofList_of_spelled spelled⟩
  · refine ⟨_, Arguments.ofList_of_spelled spelled, decide_eq_true_iff, fun file env fits => ?_, ?_⟩
    · rw [override_of_fits fits]
      exact ⟨rfl, apply_ofFlags file env flags⟩
    · intro file env files read quiet
      rw [start_of_spelled spelled quiet]
      refine ⟨fun fits => ?_, fun name value first => ?_⟩
      · rw [load_of_fits read fits]
        exact congrArg Start.listen (apply_ofFlags file env flags)
      · rw [load_of_misfit read first]
  · rcases env.fits_or_misfit with fits | ⟨name, value, first⟩
    · exact .inl ⟨congrArg Prod.snd (override_of_fits fits), fits⟩
    · exact .inr ⟨name, value, first, override_of_misfit first⟩
  · intro flags other arguments arguments' spelled spelled' same
    have asks : Arguments.ofList arguments = Arguments.ofList arguments' := by
      rw [Arguments.ofList_of_spelled spelled, Arguments.ofList_of_spelled spelled', Arguments.ofFlags_congr same]
    refine ⟨asks, fun env files => ?_⟩
    simp only [start, asks]

/-- Ports, addresses and a switch, with more or fewer dashes. -/
def repeated : List Text :=
  ["-port", "1", "--address", "::1", "d", "port", "+2"].map String.toList

/-- The same, but with the flags in another order. -/
def shuffled : List Text :=
  ["d", "-port", "1", "port", "+2", "--address", "::1"].map String.toList

/-- An environment in which all variables that override settings are set. -/
def crowded (port address : String) : Environment
  | "ERL_EPMD_PORT" => some port.toList
  | "ERL_EPMD_ADDRESS" => some address.toList
  | "ERL_EPMD_RELAXED_COMMAND_CHECK" => some []
  | _ => none

/-- The last port and the addresses are those of the arguments, the client's port is that of the environment, and the
switches are on; so it is in the other order; and of two values that do not fit, that of the port is reported. -/
theorem last_layer_wins_of_repeated :
    let absent (_ : Text) : Settings.File := .absent
    let settings : Settings :=
      ⟨{ port := 2, allowed := [.loopback6], relaxed := true }, { port := 9 }, { debug := true }⟩
    start repeated (crowded " 9\n" "10.0.0.1") absent = .listen settings ∧
    start shuffled (crowded " 9\n" "10.0.0.1") absent = .listen settings ∧
    start repeated (crowded "nine" "ten") absent = .finish (failed
      ⟨"failed to load config".toList, some "invalid value \"nine\" for ERL_EPMD_PORT".toList⟩) := by
  intro absent settings
  have first : Spelled [.port 1, .address [.loopback6], .debug, .port 2] repeated :=
    .cons _ [['1']] (Keyword.ofText?_eq_some.mp rfl) ⟨_, rfl, rfl⟩ <|
    .cons _ ["::1".toList] (Keyword.ofText?_eq_some.mp rfl) ⟨_, rfl, rfl⟩ <|
    .cons _ [] (Keyword.ofText?_eq_some.mp rfl) rfl <|
    .cons _ ["+2".toList] (Keyword.ofText?_eq_some.mp rfl) ⟨_, rfl, rfl⟩ .nil
  have second : Spelled [.debug, .port 1, .port 2, .address [.loopback6]] shuffled :=
    .cons _ [] (Keyword.ofText?_eq_some.mp rfl) rfl <|
    .cons _ [['1']] (Keyword.ofText?_eq_some.mp rfl) ⟨_, rfl, rfl⟩ <|
    .cons _ ["+2".toList] (Keyword.ofText?_eq_some.mp rfl) ⟨_, rfl, rfl⟩ <|
    .cons _ ["::1".toList] (Keyword.ofText?_eq_some.mp rfl) ⟨_, rfl, rfl⟩ .nil
  have fits : (crowded " 9\n" "10.0.0.1").Fits := by
    constructor
    · rintro _ ⟨⟩
      exact ⟨9, rfl⟩
    · rintro _ ⟨⟩
      exact ⟨_, rfl⟩
  have misfit : (crowded "nine" "ten").FirstMisfit Environment.portVariable "nine".toList :=
    .port rfl nofun
  obtain ⟨_, taken, _, reordered⟩ := last_layer_wins
  obtain ⟨_, _, _, _, starts⟩ := taken _ _ first
  have listens := (starts {} (crowded " 9\n" "10.0.0.1") absent rfl (by decide)).1 fits
  have reports := (starts {} (crowded "nine" "ten") absent rfl (by decide)).2 _ _ misfit
  have same := (reordered _ _ _ _ first second (by rintro (_ | _) <;> rfl)).2 (crowded " 9\n" "10.0.0.1") absent
  exact ⟨listens, same.symm.trans listens, reports⟩

end Daemon

end PortMapper
