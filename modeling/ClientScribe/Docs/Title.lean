import ClientScribe.Text.Blank
import ClientScribe.Text.Case
import ClientScribe.Text.Search

/-!
Page titles: what they say of the topic of a page, and the names made from them.
-/

namespace ClientScribe

/-- What a page describes. -/
inductive Topic where
  | typeDefinition
  | errorList
  | endpoint
  | sequence
  | webhook
  | unrecognized
deriving DecidableEq, Repr

/-- The topic of a page by its tag and its title. -/
def Topic.of (tag title : String) : Topic :=
  if tag = "endpoint" then .endpoint
  else if tag ≠ "basic" then .unrecognized
  else
    let cs := title.toList
    if Text.has "Sequence".toList cs then .sequence
    else if "Object".toList.isSuffixOf cs then .typeDefinition
    else if "Errors".toList.isSuffixOf cs then .errorList
    else if "Webhook".toList.isPrefixOf cs then .webhook
    else .unrecognized

namespace Title

/-- A dash in blanks and a product name at the start of the text, and what follows. -/
def productMark? (products : List String) (s : List Char) : Option (Unit × List Char) := do
  let s ← Text.strip? " - ".toList s
  let rest ← products.findSome? fun p => Text.strip? p.toList s
  return ((), rest)

/-- The title without the product names behind dashes. -/
def clean (products : List String) (title : String) : String :=
  String.ofList (Text.replaceAll (productMark? products) (fun _ => []) title.toList)

/-- The title in one word, without the marker of its topic. -/
def oneWord (marker title : String) : String :=
  String.ofList ((Text.dropMarker marker.toList title.toList).filter fun c => !Text.isBlank c)

def typeName (title : String) : String := oneWord "Object" title

def enumName (title : String) : String := oneWord "Errors" title ++ "Error"

/-- A word with an upper-case initial. -/
def capitalize : List Char → List Char
  | [] => []
  | c :: s => Text.upperChar c ++ s

/-- The words of the title with upper-case initials, in one word without hyphens. -/
def requestName (title : String) : String :=
  String.ofList (((Text.words title.toList).flatMap capitalize).filter (· ≠ '-')) ++ "Request"

end Title

end ClientScribe
