import ClientScribe.Yaml.Tag
import ClientScribe.Yaml.Token

/-!
Nodes: a document as a graph.  Every node has a number, by which the nodes around it name it.  An
alias is nothing but the number of the node that its anchor names, so a node may be in several
others and even inside itself.
-/

namespace ClientScribe.Yaml

inductive Content where
  | scalar (s : Scalar)
  | sequence (items : List Nat)
  /-- Keys with their values. -/
  | mapping (entries : List (Nat × Nat))
deriving DecidableEq, Repr

structure Node where
  tag : Tag
  content : Content
deriving DecidableEq, Repr

/-- What an omitted node is. -/
def Node.empty : Node := ⟨.null, .scalar .empty⟩

/-- The nodes of a document by their numbers. -/
structure Graph where
  nodes : Array Node

namespace Graph

variable (g : Graph)

def size : Nat := g.nodes.size

def tag? (i : Nat) : Option Tag := g.nodes[i]?.map Node.tag

def content? (i : Nat) : Option Content := g.nodes[i]?.map Node.content

/-- The items of a sequence. -/
def items? (i : Nat) : Option (List Nat) :=
  match g.content? i with
  | some (.sequence items) => some items
  | _ => none

/-- The entries of a mapping. -/
def entries? (i : Nat) : Option (List (Nat × Nat)) :=
  match g.content? i with
  | some (.mapping entries) => some entries
  | _ => none

/-- A new node; its number is the size of the graph before it. -/
def add (n : Node) : Graph := ⟨g.nodes.push n⟩

/-- Gives a node another content. -/
def fill (i : Nat) (content : Content) : Graph :=
  ⟨g.nodes.modify i fun n => { n with content }⟩

/-- Gives a node another tag. -/
def retag (i : Nat) (tag : Tag) : Graph := ⟨g.nodes.modify i fun n => { n with tag }⟩

@[simp] theorem size_add (n : Node) : (g.add n).size = g.size + 1 := by simp [add, size]

@[simp] theorem size_fill (i : Nat) (content : Content) : (g.fill i content).size = g.size := by
  simp [fill, size]

end Graph

end ClientScribe.Yaml
