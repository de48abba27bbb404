import ClientScribe.Text.Blank
import ClientScribe.Text.Search

/-!
Doc comments.  Escaped bullets become dashes, and a text cannot close the comment it stands in.
-/

namespace ClientScribe.Client

/-- Writes `-` for every `\*`. -/
def dashBullets : List Char → List Char
  | [] => []
  | '\\' :: '*' :: s => '-' :: dashBullets s
  | c :: s => c :: dashBullets s

/-- Sets the star and the slash of every `*/` apart by a backslash. -/
def guardClose : List Char → List Char
  | [] => []
  | '*' :: '/' :: s => '*' :: '\\' :: '/' :: guardClose s
  | c :: s => c :: guardClose s

/-- A line of the comment between its first and its last. -/
def commentLine (indent line : List Char) : List Char :=
  Text.trimEnd (indent ++ [' ', '*', ' '] ++ line)

/-- The doc comment of a description, with a line break at its end. -/
def comment (indent description : String) : String :=
  let lines := Text.lines (guardClose (dashBullets description.toList))
  let inner := lines.map fun line => String.ofList (commentLine indent.toList line) ++ "\n"
  indent ++ "/**\n" ++ String.join inner ++ indent ++ " */\n"

end ClientScribe.Client
