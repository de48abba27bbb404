import ClientScribe.Yaml.Merge
import ClientScribe.Yaml.Value

/-!
Building the values of a document from its nodes.  The collections are filled in the order in which
they are met, those further in after all those further out; of several faults the first one met in
this order counts.
-/

namespace ClientScribe.Yaml

/-- A collection that is still empty, under a tag of collections. -/
def Value.hollow? : Tag → Option Value
  | .seq => some (.list [])
  | .map => some (.map [])
  | .set => some (.set [])
  | .pairs | .orderedMap => some (.pairs [])
  | _ => none

/-- The scalar that a node is, or that stands for it under a key tagged so.  Further than `room`
steps away there is none: then the steps go round in a circle. -/
def Graph.scalarText (g : Graph) (room : Nat) (i : Nat) : Except Fault (List Char) :=
  match room, g.content? i with
  | _, some (.scalar s) => .ok s.text
  | 0, _ => .error .endless
  | room + 1, some (.mapping es) =>
    match es.find? fun e => g.tag? e.1 = some .value with
    | some (_, v) => g.scalarText room v
    | none => .error .malformed
  | _, _ => .error .malformed

/-- The value of a node under a tag of scalars. -/
def Graph.atom (g : Graph) (i : Nat) : Except Fault Atom :=
  match g.nodes[i]? with
  | none => .error .malformed
  | some n =>
    if !n.tag.isAtomic then .error .malformed
    else do
      let s ← g.scalarText g.size i
      if n.tag = .timestamp && (g.entries? i).isSome then throw .momentInMapping
      Atom.read i n.tag s

/-- The values so far. -/
structure Building where
  graph : Graph
  /-- How many merge keys there were at first. -/
  merges : Nat
  values : Array (Option Value)
  /-- The collections still to be filled, last first. -/
  hollow : List Nat

abbrev Build := StateT Building (Except Fault)

namespace Build

def malformed {α : Type} : Build α := throw .malformed

def value? (i : Nat) : Build (Option Value) := return ((← get).values[i]?).join

/-- The value of a node as a key. -/
def key (i : Nat) : Build Atom := do
  match ← value? i with
  | some (.atom a) => return a
  | _ => malformed

def set (i : Nat) (v : Value) : Build Unit :=
  modify fun b => { b with values := b.values.setIfInBounds i (some v) }

/-- Gives a node its value; a collection is empty at first. -/
def begin (i : Nat) : Build Unit := do
  if (← value? i).isNone then
    let g := (← get).graph
    match (g.tag? i).bind Value.hollow? with
    | some v =>
      set i v
      modify fun b => { b with hollow := i :: b.hollow }
    | none => set i (.atom (← g.atom i))

/-- An entry of a mapping: the key, its node, and the node of the value. -/
abbrev Member := Atom × Nat × Nat

/-- Sets the value of a key.  A key that is present keeps its place; a new one goes to the end. -/
def put (a : Atom) (k v : Nat) : List Member → List Member
  | [] => [(a, k, v)]
  | (b, j, w) :: es => if b.same a then (b, j, v) :: es else (b, j, w) :: put a k v es

/-- The entries of a mapping with what it merges, one for each key. -/
def members (i : Nat) : Build (List Member) := do
  let b ← get
  let g ← b.graph.mergeInto b.merges [] i
  modify fun b => { b with graph := g }
  ((g.entries? i).getD []).foldlM (fun es e => do
    begin e.1
    let a ← key e.1
    begin e.2
    return put a e.1 e.2 es) []

/-- The pairs of a list of mappings that have one entry each. -/
def pairs (items : List Nat) : Build (List (Nat × Nat)) :=
  items.mapM fun i => do
    match (← get).graph.entries? i with
    | some [(k, v)] =>
      begin k
      begin v
      return (k, v)
    | _ => malformed

/-- Fills a collection. -/
def fill (i : Nat) : Build Unit := do
  let g := (← get).graph
  match ← value? i, g.content? i with
  | some (.list _), some (.sequence items) =>
    items.forM begin
    set i (.list items)
  | some (.map _), some (.mapping _) => set i (.map ((← members i).map Prod.snd))
  | some (.set _), some (.mapping _) => set i (.set ((← members i).map fun e => e.2.1))
  | some (.pairs _), some (.sequence items) => set i (.pairs (← pairs items))
  | _, _ => malformed

/-- Fills the collections that are empty, and then those that this has begun.  A node is begun only
once, so `rounds` may be the number of nodes. -/
def fillAll : (rounds : Nat) → Build Unit
  | 0 => return
  | rounds + 1 => do
    match (← get).hollow with
    | [] => return
    | is =>
      modify fun b => { b with hollow := [] }
      is.reverse.forM fill
      fillAll rounds

end Build

/-- The values of the nodes from the node `root` on. -/
def Document.ofGraph (g : Graph) (root : Nat) : Except Fault Document :=
  let build : Build Unit := do
    Build.begin root
    Build.fillAll g.size
  (build.run ⟨g, g.mergeCount, .replicate g.size none, []⟩).map fun (_, b) =>
    ⟨b.values.map fun v => v.getD (.atom .null), root⟩

end ClientScribe.Yaml
