import ClientScribe.Schema.View
import ClientScribe.Yaml.Atom

/-!
Values of documents.  Every node has its value only once, under its number, and the values inside a
collection are given by theirs: so a value that several others share costs no more than one, and a
collection may hold itself.
-/

namespace ClientScribe.Yaml

/-- The value of a node; values inside others are given by their nodes. -/
inductive Value where
  | atom (a : Atom)
  | list (items : List Nat)
  | map (entries : List (Nat × Nat))
  | set (items : List Nat)
  | pairs (items : List (Nat × Nat))
deriving Inhabited

structure Document where
  values : Array Value
  root : Nat

namespace Document

variable (d : Document)

/-- A text that holds no document means nothing. -/
def null : Document := ⟨#[.atom .null], 0⟩

def atom? (i : Nat) : Option Atom :=
  match d.values[i]? with
  | some (.atom a) => some a
  | _ => none

def text? (i : Nat) : Option String :=
  match d.atom? i with
  | some (.text s) => some s
  | _ => none

def entries? (i : Nat) : Option (List (Nat × Nat)) :=
  match d.values[i]? with
  | some (.map es) => some es
  | _ => none

end Document

/-- A value in a document, or one of the pairs in a list of pairs. -/
inductive Item where
  | value (d : Document) (i : Nat)
  | pair

def Atom.shape {α : Type} : Atom → Shape α
  | .null => .null
  | .bool b => .bool b
  | .int n => .int n
  | .float x => .float x
  | .notNumber _ => .float (0 / 0)
  | .text s => .text s
  | .bytes bs => .bytes bs
  | .moment _ => .other

/-- The value of a node as checks see it.  A set is a list; of a mapping the members count whose
keys are texts. -/
def Document.shape (d : Document) (i : Nat) : Shape Item :=
  match d.values[i]? with
  | none => .other
  | some (.atom a) => a.shape
  | some (.list items) | some (.set items) => .list (items.map (.value d))
  | some (.pairs items) => .list (items.map fun _ => .pair)
  | some (.map entries) =>
    .record (entries.filterMap fun e => (d.text? e.1).map fun s => (s, .value d e.2))

instance : View Item where
  shape
    | .value d i => d.shape i
    | .pair => .other
  mark?
    | .value _ i => some i
    | .pair => none

end ClientScribe.Yaml
