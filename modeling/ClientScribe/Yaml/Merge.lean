import ClientScribe.Yaml.Fault
import ClientScribe.Yaml.Node

/-!
Merging: a mapping takes over the entries of the mappings that its merge keys name.  What it takes
over stands in front of its own entries, which therefore win; of several mappings in a sequence the
last stands in front, so that the first wins.
-/

namespace ClientScribe.Yaml.Graph

variable (g : Graph)

/-- The value of the first merge key, and the entries without that key. -/
def splitMerge : List (Nat × Nat) → Option (Nat × List (Nat × Nat))
  | [] => none
  | (k, v) :: es =>
    if g.tag? k = some .merge then some (v, es)
    else (splitMerge es).map fun (w, rest) => (w, (k, v) :: rest)

/-- How many merge keys there are. -/
def mergeCount : Nat :=
  g.nodes.foldl (fun count n =>
    match n.content with
    | .mapping es => count + es.countP fun e => g.tag? e.1 = some .merge
    | _ => count) 0

/-- A key that elsewhere stands for its mapping is a text among other keys. -/
def nameKeys (g : Graph) : List (Nat × Nat) → Graph
  | [] => g
  | (k, _) :: es => nameKeys (if g.tag? k = some .value then g.retag k .str else g) es

/-- Merges into the mapping `i`, which has taken over `taken` so far.  Every merge key is removed
once it is seen, so `room` may be their number, and a mapping may merge itself. -/
def mergeInto (room : Nat) (taken : List (Nat × Nat)) (g : Graph) (i : Nat) :
    Except Fault Graph :=
  let own := (g.entries? i).getD []
  match room, g.splitMerge own with
  | room + 1, some (v, rest) => do
    let g := g.fill i (.mapping rest)
    let mergeOne (merged : Graph × List (Nat × Nat)) (j : Nat) : Except Fault _ := do
      if (merged.1.entries? j).isNone then throw .malformed
      let g ← mergeInto room [] merged.1 j
      return (g, (g.entries? j).getD [] ++ merged.2)
    let (g, more) ←
      match g.items? v with
      | some items => items.foldlM mergeOne (g, [])
      | none => mergeOne (g, []) v
    mergeInto room (taken ++ more) g i
  | _, _ =>
    let entries := taken ++ own
    .ok (nameKeys (g.fill i (.mapping entries)) entries)

end ClientScribe.Yaml.Graph
