import PortMapper.Client.Basic

/-!
# Names held by a client

Registrations of a client may be under way at the same time, and their handles live as long as their owners
like. A name is reserved before the daemon is asked. A call that ends without success gives the name back, and
so does the end of a handle. A call that its caller gives up just ends: nothing gives back its name.
-/

namespace PortMapper

/-- The registrations of a client, each called by its name. -/
structure NameUse where
  /-- The names that count as registered. -/
  held : List Text := []
  /-- The names of the calls under way. -/
  calls : List Text := []
  /-- The names of the live handles. -/
  handles : List Text := []
  deriving DecidableEq, Repr

/-- What happens to the registrations of a client. -/
inductive NameEvent
  /-- A call starts; a name that counts as registered is a conflict. -/
  | start (name : Text)
  /-- The daemon accepted the registration, and the caller has a handle now. -/
  | succeed (name : Text)
  /-- The call ended in another way. -/
  | fail (name : Text)
  /-- The caller gave the call up. -/
  | abandon (name : Text)
  /-- The handle was dropped or its node unregistered. -/
  | drop (name : Text)
  deriving DecidableEq, Repr

namespace NameUse

/-- The names that count as registered when one does not any longer. -/
def without (held : List Text) (name : Text) : List Text :=
  held.filter (· ≠ name)

/-- The registrations after an event, if it can happen. -/
def step (names : NameUse) : NameEvent → Option NameUse
  | .start name =>
    if name ∈ names.held then some names
    else some { names with held := name :: names.held, calls := name :: names.calls }
  | .succeed name =>
    if name ∈ names.calls then
      some { names with calls := names.calls.erase name, handles := name :: names.handles }
    else none
  | .fail name =>
    if name ∈ names.calls then
      some { names with held := without names.held name, calls := names.calls.erase name }
    else none
  | .abandon name =>
    if name ∈ names.calls then some { names with calls := names.calls.erase name } else none
  | .drop name =>
    if name ∈ names.handles then
      some { names with held := without names.held name, handles := names.handles.erase name }
    else none

def run (names : NameUse) (events : List NameEvent) : Option NameUse :=
  events.foldlM step names

/-- Whether a client can come to have these registrations. -/
def Reachable (names : NameUse) : Prop :=
  ∃ events, run {} events = some names

end NameUse

end PortMapper
