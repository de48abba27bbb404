import ClientScribe.Client.Name
import ClientScribe.Reference.Graph

/-!
Types as TypeScript writes them.  An object without fields of its own is written as the reference
with its id, if there is one.
-/

namespace ClientScribe.Client

/-- The type of a string with a known beginning. -/
def templateText (start : String) : String := "`" ++ start ++ "$\x7bstring\x7d`"

/-- The type of a string with known values. -/
def literalUnion (values : List String) : String :=
  " | ".intercalate (values.map fun v => s!"'{v}'")

def stringText (startsWith : Option String) (possibleValues : Option (List String)) : String :=
  match startsWith.filter (!·.isEmpty), possibleValues.filter (!·.isEmpty) with
  | some start, _ => templateText start
  | none, some values => literalUnion values
  | none, none => "string"

/-- An object that is described elsewhere. -/
def referenceText (references : List Reference) (id : Option String) : String :=
  match (id.filter (!·.isEmpty)).bind fun id => Reference.find? id references with
  | some target => s!"Partial<{target.name}>"
  | none => "object"

mutual

def nodeText (references : List Reference) : TypeNode → String
  | ⟨tag, startsWith, possibleValues, fields, id, arrayTypes⟩ =>
    if tag = "string" then stringText startsWith possibleValues
    else if tag = "object" then objectText references id fields
    else if tag = "number" || tag = "boolean" then tag
    else if tag = "array" then elementsText references arrayTypes
    else "unknown"

def objectText (references : List Reference) (id : Option String) : Option (List TypeField) → String
  | none | some [] => referenceText references id
  | some (f :: fs) =>
    "\x7b " ++ "; ".intercalate (memberTexts references (f :: fs)) ++ " \x7d"

def elementsText (references : List Reference) : Option (List TypeNode) → String
  | none | some [] => "any[]"
  | some (t :: ts) => "(" ++ " | ".intercalate (nodeTexts references (t :: ts)) ++ ")[]"

def nodeTexts (references : List Reference) : List TypeNode → List String
  | [] => []
  | t :: ts => nodeText references t :: nodeTexts references ts

def memberTexts (references : List Reference) : List TypeField → List String
  | [] => []
  | ⟨name, types, _, _⟩ :: fs =>
    (property name ++ ": " ++ " | ".intercalate (nodeTexts references types)) ::
      memberTexts references fs

end

/-- The alternatives of a value. -/
def typeText (references : List Reference) (types : List TypeNode) : String :=
  " | ".intercalate (nodeTexts references types)

theorem nodeTexts_eq_map (references : List Reference) (ts : List TypeNode) :
    nodeTexts references ts = ts.map (nodeText references) := by
  induction ts with
  | nil => rfl
  | cons t ts ih => rw [nodeTexts, ih, List.map_cons]

theorem memberTexts_eq_map (references : List Reference) (fs : List TypeField) :
    memberTexts references fs =
      fs.map fun f => property f.name ++ ": " ++ typeText references f.types := by
  induction fs with
  | nil => rfl
  | cons f fs ih =>
    obtain ⟨name, types, required, description⟩ := f
    rw [memberTexts, ih, List.map_cons, typeText]

mutual

/-- The ids that a type refers to, inside arrays too. -/
def nodeIds : TypeNode → List String
  | ⟨tag, _, _, _, id, arrayTypes⟩ =>
    (id.filter (!·.isEmpty)).toList ++ (if tag = "array" then elementIds arrayTypes else [])

def elementIds : Option (List TypeNode) → List String
  | none => []
  | some ts => typeIds ts

/-- The ids that types refer to, in order. -/
def typeIds : List TypeNode → List String
  | [] => []
  | t :: ts => nodeIds t ++ typeIds ts

end

end ClientScribe.Client
