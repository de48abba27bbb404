import ClientScribe.Inference.Clue
import ClientScribe.Inference.Token

/-!
The types of a documented field: its token gives them, and the clues in its description refine the
first string type and the first object type.  A type is looked for among the alternatives first and
then inside the arrays among them.
-/

namespace ClientScribe

mutual

/-- The first type with the tag inside an array. -/
def TypeNode.findInside (tag : String) : TypeNode → Option TypeNode
  | ⟨t, _, _, _, _, arrayTypes⟩ => if t = "array" then TypeNode.findInside? tag arrayTypes else none

def TypeNode.findInside? (tag : String) : Option (List TypeNode) → Option TypeNode
  | none => none
  | some ts => (ts.find? fun t => t.tag == tag).or (TypeNode.findDeeper tag ts)

/-- The first type with the tag inside any array of a list. -/
def TypeNode.findDeeper (tag : String) : List TypeNode → Option TypeNode
  | [] => none
  | t :: ts => (TypeNode.findInside tag t).or (TypeNode.findDeeper tag ts)

end

/-- The first type with the tag: among the alternatives, or else inside the arrays among them. -/
def TypeNode.find (tag : String) (types : List TypeNode) : Option TypeNode :=
  (types.find? fun t => t.tag == tag).or (TypeNode.findDeeper tag types)

/-- Changes the first type with the tag, if the list has one. -/
def TypeNode.changeHere? (tag : String) (f : TypeNode → TypeNode) :
    List TypeNode → Option (List TypeNode)
  | [] => none
  | t :: ts =>
    if t.tag = tag then some (f t :: ts) else (TypeNode.changeHere? tag f ts).map (t :: ·)

mutual

/-- Changes the first type with the tag inside an array. -/
def TypeNode.changeInside? (tag : String) (f : TypeNode → TypeNode) : TypeNode → Option TypeNode
  | ⟨t, startsWith, possibleValues, fields, id, arrayTypes⟩ =>
    if t = "array" then
      (TypeNode.changeElements? tag f arrayTypes).map fun us =>
        ⟨t, startsWith, possibleValues, fields, id, some us⟩
    else none

def TypeNode.changeElements? (tag : String) (f : TypeNode → TypeNode) :
    Option (List TypeNode) → Option (List TypeNode)
  | none => none
  | some ts => (TypeNode.changeHere? tag f ts).or (TypeNode.changeDeeper? tag f ts)

/-- Changes the first type with the tag inside any array of a list. -/
def TypeNode.changeDeeper? (tag : String) (f : TypeNode → TypeNode) :
    List TypeNode → Option (List TypeNode)
  | [] => none
  | t :: ts =>
    match TypeNode.changeInside? tag f t with
    | some t => some (t :: ts)
    | none => (TypeNode.changeDeeper? tag f ts).map (t :: ·)

end

/-- Changes the type that `TypeNode.find` finds, and nothing else. -/
def TypeNode.change (tag : String) (f : TypeNode → TypeNode) (types : List TypeNode) :
    List TypeNode :=
  ((TypeNode.changeHere? tag f types).or (TypeNode.changeDeeper? tag f types)).getD types

/-- What a description can say about a type. -/
inductive Refinement where
  | startsWith
  | possibleValues
  | objectFields
  | objectReference
deriving DecidableEq, Repr

/-- A field named in prose; its type stays unknown. -/
def TypeField.named (name : List Char) : TypeField :=
  ⟨String.ofList name, [.plain "unknown"], true, ""⟩

/-- Refines a type if the description holds the clue, and leaves it alone otherwise. -/
def Refinement.apply (description : String) : Refinement → TypeNode → TypeNode
  | .startsWith, t =>
    match Clue.beginning? description.toList with
    | some word => { t with startsWith := some (String.ofList word) }
    | none => t
  | .possibleValues, t =>
    match Clue.values description.toList with
    | [] => t
    | vs => { t with possibleValues := some (vs.map String.ofList) }
  | .objectFields, t =>
    match Clue.fieldNames description.toList with
    | [] => t
    | names => { t with fields := some (names.map TypeField.named) }
  | .objectReference, t =>
    match Clue.link? description.toList with
    | some slug => { t with id := some (String.ofList slug) }
    | none => t

/-- The tag of the types that a refinement is about. -/
def Refinement.tag : Refinement → String
  | .startsWith | .possibleValues => "string"
  | .objectFields | .objectReference => "object"

/-- The types of a field from its token and its description. -/
def TypeNode.infer (token description : String) : List TypeNode :=
  [Refinement.startsWith, .possibleValues, .objectFields, .objectReference].foldl
    (fun types r => TypeNode.change r.tag (r.apply description) types)
    (TypeNode.ofToken token)

end ClientScribe
