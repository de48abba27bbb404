import ClientScribe.Docs.Table
import ClientScribe.Json.Reader
import ClientScribe.Notice
import ClientScribe.Reference.Basic
import ClientScribe.Text.Word

/-!
What the body of a page holds: the parameters block of a type page, and the entries of an error
list.
-/

namespace ClientScribe.Body

open Text (isWord run? strip?)

/-- The text of the first parameters block. -/
def block? (body : String) : Option String := do
  let s ← Text.after? "[block:parameters]".toList body.toList
  let inner ← Text.before? "[/block]".toList s
  return String.ofList inner

/-- The cells of a parameters block. -/
def cellsOf : Json → Except BlockFault Json.Members
  | .obj members =>
    match members.lookup "data" with
    | none => .ok []
    | some (.obj entries) => .ok entries
    | some _ => .error .dataNotObject
  | _ => .error .notObject

/-- The cells in the text of a parameters block, or why it has none. -/
def cells [Interpreter] (block : String) : Except Json.Excess (Except BlockFault Json.Members) :=
  match Json.read block with
  | .error (.excess e) => .error e
  | .error (.text cause rest) => .ok (.error (.notJson (cause.messageAt rest block)))
  | .ok v => .ok (cellsOf v)

/-- A bold name on a line of its own and the line behind it, at the start of the text. -/
def entryAt? (s : List Char) : Option (EnumValue × List Char) := do
  let s ← strip? ['*', '*'] s
  let (name, s) ← run? isWord s
  let s ← strip? ['*', '*', '\n'] s
  let line := s.takeWhile (· ≠ '\n')
  let rest ← strip? ['\n'] (s.dropWhile (· ≠ '\n'))
  return (⟨String.ofList name, String.ofList line⟩, rest)

/-- The entries of an error list. -/
def errors (body : String) : List EnumValue := Text.findAll entryAt? body.toList

end ClientScribe.Body
