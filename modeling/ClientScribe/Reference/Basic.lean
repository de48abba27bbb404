import ClientScribe.Reference.Type

/-!
References: what a documentation describes, one record for each type, error list and endpoint.
-/

namespace ClientScribe

structure EnumValue where
  name : String
  description : String
deriving DecidableEq, Repr

/-- What a request takes, by the place where it goes. -/
structure Request where
  method : String
  path : String
  params : List TypeField
  body : List TypeField
  query : List TypeField
  headers : List TypeField

/-- Every field of a request, in the order of its places. -/
def Request.fields (r : Request) : List TypeField := r.params ++ r.body ++ r.query ++ r.headers

inductive Content where
  | type (fields : List TypeField)
  | enum (values : List EnumValue)
  | request (request : Request)

/-- The name of the kind of a content. -/
def Content.kind : Content → String
  | .type _ => "type"
  | .enum _ => "enum"
  | .request _ => "request"

/-- How many types and fields are inside each other; enumerations hold none. -/
def Content.nesting : Content → Nat
  | .type fields => TypeField.nestingOf fields
  | .enum _ => 0
  | .request r => TypeField.nestingOf r.fields

structure Reference where
  product : String
  /-- The id of the type that owns an error list or an endpoint. -/
  parent : Option String
  id : String
  name : String
  description : String
  content : Content

def Reference.kind (r : Reference) : String := r.content.kind

end ClientScribe
