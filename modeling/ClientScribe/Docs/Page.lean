import ClientScribe.Docs.Embedded
import ClientScribe.Html.Document

/-!
Reading a reference page: the element that carries the documentation, and its nodes.
-/

namespace ClientScribe

/-- The text that a page carries in its documentation element. -/
def docsText (tags : List Html.StartTag) : Except PageFault String :=
  match Html.elementById? docsElementId tags with
  | none => .error .noElement
  | some t =>
    match t.value? docsAttribute with
    | none | some "" => .error .noData
    | some text => .ok text

/-- Why a page cannot be looked at. -/
inductive PageCrash where
  | markup (fault : Html.MarkupFault)
  | excess (e : Json.Excess)
deriving DecidableEq, Repr

def PageCrash.message : PageCrash → String
  | .markup fault => fault.message
  | .excess e => e.message

/-- The documentation of a page.  A page that can be looked at gives its nodes or a reason why it
has none. -/
def readPage [Interpreter] (page : String) : Except PageCrash (Except PageFault Embedded) :=
  match Html.tags page with
  | .error fault => .error (.markup fault)
  | .ok tags =>
    match docsText tags with
    | .error fault => .ok (.error fault)
    | .ok text => (Embedded.read text).mapError .excess

end ClientScribe
