import ClientScribe.Reference.Type
import ClientScribe.Text.Blank
import ClientScribe.Text.Search

/-!
The type that a document names in a word or two: `string`, `array of objects`, `string or integer`.
-/

namespace ClientScribe

/-- Spellings of a tag that documents use for another one. -/
def tagAliases : List (String × String) :=
  [("float", "number"), ("Boolean", "boolean"), ("int", "number"), ("integer", "number")]

/-- Words that stand for an array, with the tag of its elements. -/
def arrayWords : List (String × String) :=
  [("array_string", "string"), ("array_object", "object")]

/-- The tag that a word stands for. -/
def tagOf (word : List Char) : String :=
  match Text.trim word with
  | [] => "unknown"
  | tag => (tagAliases.lookup (String.ofList tag)).getD (String.ofList tag)

/-- A word without the `s` of its plural. -/
def singular (word : List Char) : List Char := (Text.dropEnd? ['s'] word).getD word

/-- Whether a token names the elements of an array. -/
def namesElements (token : List Char) : Bool :=
  Text.has "array of".toList token || Text.has "list of".toList token

/-- The types that a token names; more than one only where it offers alternatives. -/
def TypeNode.ofToken (token : String) : List TypeNode :=
  let cs := token.toList
  if namesElements cs then
    [.arrayOf [.plain (tagOf (singular ((Text.words cs).getLastD [])))]]
  else
    match arrayWords.lookup token with
    | some tag => [.arrayOf [.plain tag]]
    | none => (Text.pieces " or ".toList cs).map fun word => .plain (tagOf word)

end ClientScribe
