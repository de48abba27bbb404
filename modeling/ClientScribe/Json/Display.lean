import ClientScribe.Decimal.Layout
import ClientScribe.Json.Basic
import ClientScribe.Text.Quoted

/-!
The text of a value in messages and in cells: names of constants are capitalised, strings inside
arrays and objects are quoted.
-/

namespace ClientScribe.Json

mutual

/-- The text of a value inside another one or in a message. -/
def inspect : Json → List Char
  | .null => ['N', 'o', 'n', 'e']
  | .bool true => ['T', 'r', 'u', 'e']
  | .bool false => ['F', 'a', 'l', 's', 'e']
  | .int n => (toString n).toList
  | .float x => Decimal.text x
  | .str s => Text.quoted s.toList
  | .arr [] => ['[', ']']
  | .arr (v :: vs) => '[' :: inspect v ++ inspectItems vs ++ [']']
  | .obj [] => ['{', '}']
  | .obj ((k, v) :: ms) =>
    '{' :: Text.quoted k.toList ++ ':' :: ' ' :: inspect v ++ inspectMembers ms ++ ['}']

/-- The items of an array but for the first. -/
def inspectItems : List Json → List Char
  | [] => []
  | v :: vs => ',' :: ' ' :: inspect v ++ inspectItems vs

/-- The members of an object but for the first. -/
def inspectMembers : Members → List Char
  | [] => []
  | (k, v) :: ms =>
    ',' :: ' ' :: Text.quoted k.toList ++ ':' :: ' ' :: inspect v ++ inspectMembers ms

end

/-- The text of a value that stands alone: a string is its own text. -/
def display : Json → String
  | .str s => s
  | v => String.ofList (inspect v)

end ClientScribe.Json
