import PortMapper.NodeDescription
import PortMapper.Session

/-!
# The table of nodes

The registered nodes, in ascending order of their names, one for each name.

* A name that was put in is found (`find?_insert_self`), the others are as before
  (`find?_insert_of_ne`).
* A name that was taken out is not found (`find?_erase_self`), the others are as before
  (`find?_erase_of_ne`).
-/

namespace PortMapper

/-- A registered node. -/
structure Node where
  description : NodeDescription
  /-- The creation number of this registration. -/
  creation : UInt16
  /-- The connection that it registered on. -/
  session : Session
  deriving DecidableEq, Repr

namespace Node

def name (node : Node) : Text :=
  node.description.name

def port (node : Node) : UInt16 :=
  node.description.port

/-- Where the node should answer: its port, on the host that it registered from. -/
def probeAddress (node : Node) : SocketAddress :=
  { ip := node.session.peer.ip, port := node.port }

end Node

/-- Nodes in ascending order of their names. -/
structure NodeTable where
  nodes : List Node
  ascending : nodes.Pairwise fun a b => a.name < b.name

namespace NodeTable

def empty : NodeTable :=
  ⟨[], .nil⟩

def size (table : NodeTable) : Nat :=
  table.nodes.length

def find? (table : NodeTable) (name : Text) : Option Node :=
  table.nodes.find? (·.name = name)

/-- Puts a node at its place in a list, in the place of one of the same name. -/
def place (node : Node) : List Node → List Node
  | [] => [node]
  | head :: rest =>
    if node.name < head.name then node :: head :: rest
    else if head.name < node.name then head :: place node rest
    else node :: rest

theorem mem_place {node other : Node} {nodes : List Node} (h : other ∈ place node nodes) :
    other = node ∨ other ∈ nodes := by
  induction nodes with
  | nil => simpa [place] using h
  | cons head rest ih =>
    unfold place at h
    split at h
    · simpa using h
    · split at h
      · rcases List.mem_cons.mp h with rfl | member
        · simp
        · rcases ih member with rfl | member <;> simp [*]
      · rcases List.mem_cons.mp h with rfl | member <;> simp [*]

theorem eq_of_not_lt {a b : Text} (h₁ : ¬ a < b) (h₂ : ¬ b < a) : a = b :=
  List.le_antisymm h₂ h₁

theorem place_ascending (node : Node) {nodes : List Node}
    (h : nodes.Pairwise fun a b => a.name < b.name) :
    (place node nodes).Pairwise fun a b => a.name < b.name := by
  induction nodes with
  | nil => simp [place]
  | cons head rest ih =>
    obtain ⟨above, sorted⟩ := List.pairwise_cons.mp h
    unfold place
    split
    · next lower =>
      refine List.pairwise_cons.mpr ⟨?_, h⟩
      intro other member
      rcases List.mem_cons.mp member with rfl | member
      · exact lower
      · exact List.lt_trans lower (above other member)
    · split
      · next higher =>
        refine List.pairwise_cons.mpr ⟨?_, ih sorted⟩
        intro other member
        rcases mem_place member with rfl | member
        · exact higher
        · exact above other member
      · next notLower notHigher =>
        have same := eq_of_not_lt notLower notHigher
        refine List.pairwise_cons.mpr ⟨?_, sorted⟩
        intro other member
        rw [same]
        exact above other member

/-- The table with a node under its name. -/
def insert (table : NodeTable) (node : Node) : NodeTable :=
  ⟨place node table.nodes, place_ascending node table.ascending⟩

def erase (table : NodeTable) (name : Text) : NodeTable :=
  ⟨table.nodes.filter (·.name ≠ name), table.ascending.filter _⟩

theorem find?_place_self (node : Node) (nodes : List Node) :
    (place node nodes).find? (·.name = node.name) = some node := by
  induction nodes with
  | nil => simp [place]
  | cons head rest ih =>
    unfold place
    split
    · simp
    · split
      · next higher =>
        have other : head.name ≠ node.name := by
          intro same
          rw [same] at higher
          exact List.lt_irrefl _ higher
        simp [other, ih]
      · simp

theorem find?_place_of_ne {node : Node} {name : Text} (nodes : List Node) (h : name ≠ node.name) :
    (place node nodes).find? (·.name = name) = nodes.find? (·.name = name) := by
  induction nodes with
  | nil => simp [place, h.symm]
  | cons head rest ih =>
    unfold place
    split
    · rw [List.find?_cons_of_neg]
      simpa using h.symm
    · split
      · simp only [List.find?_cons, ih]
      · next notLower notHigher =>
        have same := eq_of_not_lt notLower notHigher
        rw [List.find?_cons_of_neg, List.find?_cons_of_neg]
        · simpa [← same] using h.symm
        · simpa using h.symm

@[simp] theorem find?_insert_self (table : NodeTable) (node : Node) :
    (table.insert node).find? node.name = some node :=
  find?_place_self node table.nodes

theorem find?_insert_of_ne {table : NodeTable} {node : Node} {name : Text} (h : name ≠ node.name) :
    (table.insert node).find? name = table.find? name :=
  find?_place_of_ne table.nodes h

@[simp] theorem find?_erase_self (table : NodeTable) (name : Text) :
    (table.erase name).find? name = none := by
  simp [erase, find?]

theorem find?_erase_of_ne {table : NodeTable} {name other : Text} (h : other ≠ name) :
    (table.erase name).find? other = table.find? other := by
  simp only [erase, find?, List.find?_filter]
  congr 1
  funext node
  by_cases same : node.name = other <;> simp [same, h]

@[simp] theorem find?_empty (name : Text) : empty.find? name = none := rfl

end NodeTable

end PortMapper
