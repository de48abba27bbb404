import ClientScribe.Docs.Node
import ClientScribe.Json.Reader
import ClientScribe.Notice

/-!
The documentation tree that a reference page carries: a JSON list of nodes.  A node that is not well
formed is left out with a notice, and the others stay.
-/

namespace ClientScribe

/-- Why a page gives no documentation. -/
inductive PageFault where
  | noElement
  | noData
  | notJson (why : String)
  | notList
deriving DecidableEq, Repr

/-- The id of the element that carries the documentation. -/
def docsElementId : String := "readme-data-docs"

/-- The attribute that holds it. -/
def docsAttribute : String := "data-json"

def PageFault.message : PageFault → String
  | .noElement => s!"no #{docsElementId} element"
  | .noData => s!"#{docsElementId} has no {docsAttribute} attribute"
  | .notJson why => s!"invalid docs JSON: {why}"
  | .notList => "docs JSON is not a list"

/-- What a page gives: its nodes, and a notice for each item that is none. -/
structure Embedded where
  nodes : List DocNode
  notices : List Notice

/-- Takes in an item in front of others. -/
def Embedded.cons (item : Json) (others : Embedded) : Embedded :=
  match Decode.docNode item with
  | .ok node => { others with nodes := node :: others.nodes }
  | .rejected issues =>
    let title := (item.get? "title").getD .null
    { others with notices := .badNode title issues :: others.notices }

def Embedded.ofItems (items : List Json) : Embedded := items.foldr Embedded.cons ⟨[], []⟩

/-- What a value holds, if it is a list. -/
def Embedded.ofJson : Json → Except PageFault Embedded
  | .arr items => .ok (Embedded.ofItems items)
  | _ => .error .notList

/-- Reads the text of the attribute. -/
def Embedded.read [Interpreter] (text : String) : Except Json.Excess (Except PageFault Embedded) :=
  match Json.read text with
  | .error (.excess e) => .error e
  | .error (.text cause rest) => .ok (.error (.notJson (cause.messageAt rest text)))
  | .ok v => .ok (Embedded.ofJson v)

end ClientScribe
