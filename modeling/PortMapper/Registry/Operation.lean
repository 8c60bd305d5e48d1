import PortMapper.Registry.Basic

/-!
# Operations on a name

What can be asked of a registry that concerns one name only, and the answers. Probes are answered the same way
throughout an operation.
-/

namespace PortMapper

/-- An operation on a registry that concerns one name. -/
inductive NameOperation
  | register (description : NodeDescription) (session : Session)
  | lookup (name : Text)
  | remove (name : Text)
  | removeSession (name : Text) (session : UInt64)
  deriving DecidableEq, Repr

/-- What comes of an operation on a name. -/
inductive OperationResult
  | registration (outcome : RegisterOutcome)
  /-- The node that was found or removed, if one was. -/
  | node (found : Option Node)
  deriving DecidableEq, Repr

namespace NameOperation

/-- The name that an operation concerns. -/
def name : NameOperation → Text
  | register description _ => description.name
  | lookup name | remove name | removeSession name _ => name

/-- The result of an operation, and the registry after it. -/
def perform (answers : SocketAddress → Bool) (registry : Registry) : NameOperation → OperationResult × Registry
  | register description session => (registry.register description session).map .registration id
  | lookup name => (registry.lookup answers name).map .node id
  | remove name => (registry.remove name).map .node id
  | removeSession name session => (registry.removeSession name session).map .node id

/-- The registered node that an operation acts on: the one of its name, if it is not one of another session. -/
def actsOn (registry : Registry) : NameOperation → Option Node
  | register description _ => registry.find? description.name
  | lookup name | remove name => registry.find? name
  | removeSession name session => (registry.find? name).filter (·.session.id = session)

end NameOperation

end PortMapper
