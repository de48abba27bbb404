import ClientScribe.Text.Search
import ClientScribe.Text.Word

/-!
Paths of endpoints.  A documented url writes a placeholder as `:name` and may end in a query; a path
writes it as `{name}` and has no query.
-/

namespace ClientScribe.UrlPath

open Text (isWord run?)

/-- A colon and a name at the start of the text. -/
def colonName? : List Char → Option (List Char × List Char)
  | ':' :: s => run? isWord s
  | _ => none

/-- A name in braces at the start of the text. -/
def bracedName? : List Char → Option (List Char × List Char)
  | '{' :: s =>
    match run? isWord s with
    | some (name, '}' :: rest) => some (name, rest)
    | _ => none
  | _ => none

/-- The path of a documented url. -/
def ofUrl (url : String) : String :=
  String.ofList (Text.replaceAll colonName? (fun name => '{' :: name ++ ['}'])
    (url.toList.takeWhile (· ≠ '?')))

/-- The names in the placeholders of a path, from left to right. -/
def placeholders (path : String) : List String :=
  (Text.findAll bracedName? path.toList).map String.ofList

/-- The path with its placeholders emptied. -/
def template (path : String) : String :=
  String.ofList (Text.replaceAll bracedName? (fun _ => ['{', '}']) path.toList)

end ClientScribe.UrlPath
