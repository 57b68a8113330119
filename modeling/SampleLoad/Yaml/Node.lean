import SampleLoad.Yaml.Token

/-!
The nodes of a document. A node may carry an anchor, and an alias elsewhere stands for the node of an anchor.
Anchors are known by numbers here: where two have the same number, aliases mean the later one.
-/

namespace SampleLoad.Yaml

inductive Node where
  | scalar (tag? : Option Tag) (style : ScalarStyle) (text : String)
  | sequence (tag? : Option Tag) (items : List Node)
  | mapping (tag? : Option Tag) (entries : List (Node × Node))
  | anchored (number : Nat) (node : Node)
  | reference (number : Nat)
  deriving Inhabited

namespace Node

/-- What stands where nothing is written. -/
def empty : Node := scalar none .plain ""

mutual

/-- The number of scalars, aliases and ends of collections. -/
def size : Node → Nat
  | scalar .. | reference _ => 1
  | sequence _ items => 2 + sizeOfItems items
  | mapping _ entries => 2 + sizeOfEntries entries
  | anchored _ node => node.size

def sizeOfItems : List Node → Nat
  | [] => 0
  | item :: rest => item.size + sizeOfItems rest

def sizeOfEntries : List (Node × Node) → Nat
  | [] => 0
  | (key, value) :: rest => key.size + value.size + sizeOfEntries rest

end

mutual

/-- The nodes with anchors, in the order in which they begin, in front of others. -/
def anchors (others : List (Nat × Node)) : Node → List (Nat × Node)
  | scalar .. | reference _ => others
  | sequence _ items => anchorsOfItems others items
  | mapping _ entries => anchorsOfEntries others entries
  | anchored number node => (number, node) :: anchors others node

def anchorsOfItems (others : List (Nat × Node)) : List Node → List (Nat × Node)
  | [] => others
  | item :: rest => anchors (anchorsOfItems others rest) item

def anchorsOfEntries (others : List (Nat × Node)) : List (Node × Node) → List (Nat × Node)
  | [] => others
  | (key, value) :: rest => anchors (anchors (anchorsOfEntries others rest) value) key

end

end Node

/-- A document: its root, and the nodes that aliases stand for. -/
structure Document where
  root : Node
  anchors : List (Nat × Node)
  deriving Inhabited

namespace Document

def ofRoot (root : Node) : Document := ⟨root, root.anchors []⟩

/-- The node that an alias stands for. -/
def anchor? (d : Document) (number : Nat) : Option Node :=
  (d.anchors.reverse.find? (·.1 = number)).map (·.2)

end Document

end SampleLoad.Yaml
