import ClientScribe.Reference.Type

/-!
Merging fields of one name.  A name may be documented several times, in one place or in several;
the merged field allows every documented type and is required only where every occurrence is.
-/

namespace ClientScribe

/-- The types of both lists: those of the second come last, without the ones that are there. -/
def TypeNode.union (ts us : List TypeNode) : List TypeNode :=
  us.foldl (fun acc u => if acc.contains u then acc else acc ++ [u]) ts

/-- Two descriptions on lines of their own; an empty one takes no line. -/
def joinDescriptions (a b : String) : String :=
  if a.isEmpty then b else if b.isEmpty then a else a ++ "\n" ++ b

/-- Two occurrences of one field as one. -/
def TypeField.join (f g : TypeField) : TypeField :=
  { name := f.name
    types := TypeNode.union f.types g.types
    required := f.required && g.required
    description := joinDescriptions f.description g.description }

/-- Joins a field to the one of its name, or adds it at the end. -/
def TypeField.insert (f : TypeField) : List TypeField → List TypeField
  | [] => [f]
  | g :: gs => if g.name = f.name then g.join f :: gs else g :: f.insert gs

/-- One field for each name, in the order of the first occurrences. -/
def TypeField.merge (fields : List TypeField) : List TypeField :=
  fields.foldl (fun merged f => f.insert merged) []

end ClientScribe
