import PortMapper.Address.Parser
import PortMapper.Settings.Basic
import PortMapper.Toml.Document

/-!
# Settings in a document

Where a document gives a setting, the setting has that value; all others keep theirs. A name that is no
setting does not count, but a setting with a value of the wrong kind spoils the document. The settings of a
group stand in a table under their names or in a list in their order; a date in the place of a group sets
nothing.
-/

namespace PortMapper

/-- A setting of a group: its name in a document, and how an item changes the group. -/
structure Setting (group : Type) where
  name : String
  assign : Toml.Item → group → Option group

namespace Setting

/-- A setting whose value is read by `read` and stored by `store`. -/
def ofValue {group α : Type} (name : String) (read : Toml.Item → Option α)
    (store : α → group → group) : Setting group :=
  ⟨name, fun item old => (read item).map (store · old)⟩

/-- Settings that have their values in a table. -/
def assignTable {group : Type} (entries : Toml.Entries) (settings : List (Setting group))
    (old : group) : Option group :=
  settings.foldlM
    (fun old setting =>
      match entries.find? setting.name.toList with
      | some item => setting.assign item old
      | none => some old)
    old

/-- Settings that have their values in a list. -/
def assignList {group : Type} (items : List Toml.Item) (settings : List (Setting group))
    (old : group) : Option group :=
  -- A list may be too short, and what is too much in it does not count.
  (settings.zip items).foldlM (fun old (setting, item) => setting.assign item old) old

/-- Settings that have their values in an item. Tables that share a header are a list of tables. -/
def assignAll {group : Type} (settings : List (Setting group)) (item : Toml.Item) (old : group) :
    Option group :=
  match item with
  | .table _ entries => assignTable entries settings old
  | .list items => assignList items settings old
  | .tables elements => assignList (elements.map (.table .header)) settings old
  | .scalar .dateTime => some old
  | .scalar _ => none

end Setting

namespace Toml.Item

/-- The switch that an item is. -/
def switch? : Item → Option Bool
  | .scalar (.boolean value) => some value
  | _ => none

/-- The number that an item is, if it is not negative. -/
def number? : Item → Option Nat
  | .scalar (.integer (.ofNat value)) => some value
  | _ => none

/-- The port that an item is. -/
def port? (item : Item) : Option UInt16 :=
  (item.number?.filter (· ≤ 65535)).map UInt16.ofNat

/-- The address that an item is. -/
def address? : Item → Option IpAddress
  | .scalar (.text value) => IpAddress.ofText? value
  | _ => none

/-- The addresses that an item is. -/
def addresses? : Item → Option (List IpAddress)
  | .list elements => elements.mapM address?
  | _ => none

end Toml.Item

open Toml.Item (switch? number? port? address? addresses?)

/-- The settings of a daemon, in their order. -/
def ServerSettings.settings : List (Setting ServerSettings) :=
  [.ofValue "port" port? fun value old => { old with port := value },
    .ofValue "listen_address" address? fun value old => { old with listenAddress := value },
    .ofValue "allowed_addresses" addresses? fun value old => { old with allowed := value },
    .ofValue "relaxed_command_check" switch? fun value old => { old with relaxed := value },
    .ofValue "max_connections" number? fun value old => { old with maxConnections := value },
    .ofValue "read_timeout_ms" number? fun value old => { old with readTimeout := value },
    .ofValue "write_timeout_ms" number? fun value old => { old with writeTimeout := value },
    .ofValue "liveness_timeout_ms" number? fun value old => { old with livenessTimeout := value },
    .ofValue "shutdown_grace_ms" number? fun value old => { old with shutdownGrace := value }]

/-- The settings of a client, in their order. -/
def ClientSettings.settings : List (Setting ClientSettings) :=
  [.ofValue "host" address? fun value old => { old with host := value },
    .ofValue "port" port? fun value old => { old with port := value },
    .ofValue "connect_timeout_ms" number? fun value old => { old with connectTimeout := value },
    .ofValue "request_timeout_ms" number? fun value old => { old with requestTimeout := value },
    .ofValue "max_in_flight" number? fun value old => { old with maxInFlight := value }]

def LogSettings.settings : List (Setting LogSettings) :=
  [.ofValue "debug" switch? fun value _ => ⟨value⟩]

namespace Settings

/-- The groups of settings, in their order. -/
def settings : List (Setting Settings) :=
  [⟨"server", fun item old => do
      return { old with server := ← Setting.assignAll ServerSettings.settings item old.server }⟩,
    ⟨"client", fun item old => do
      return { old with client := ← Setting.assignAll ClientSettings.settings item old.client }⟩,
    ⟨"logging", fun item old => do
      return { old with log := ← Setting.assignAll LogSettings.settings item old.log }⟩]

/-- The settings of a document. -/
def ofText? (text : Text) : Option Settings := do
  Setting.assignTable (← Toml.Entries.ofText? text) settings {}

end Settings

end PortMapper
