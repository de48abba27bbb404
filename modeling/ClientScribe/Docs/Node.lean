import ClientScribe.Schema.Decode

/-!
Documentation trees.  A node is one page of a reference; it has a tag, prose, perhaps an endpoint,
and child pages.  Published documents leave unset text and lists as null, which reads as empty.
-/

namespace ClientScribe

/-- A documented parameter of an endpoint. -/
structure Param where
  name : String
  /-- The type as the document words it. -/
  type : String
  /-- Where the parameter goes: `path`, `body`, `header` or `query`. -/
  place : String
  required : Bool
  description : String
deriving DecidableEq, Repr

structure Endpoint where
  method : String
  url : String
  params : List Param
deriving DecidableEq, Repr

structure DocNode where
  title : String
  slug : String
  /-- `basic`, `endpoint` or another word for the sort of page. -/
  tag : String
  body : String
  excerpt : String
  endpoint : Option Endpoint
  children : List DocNode
deriving Repr

namespace Decode

def param (v : Json) : Checked Param :=
  record (fun members =>
    Checked.ap (Checked.ap (Checked.ap (Checked.ap (Checked.map Param.mk
      (required ["name"] text members))
      (optional ["type"] "" (nullAs "" text) members))
      (optional ["in", "location"] "body" text members))
      (optional ["required"] false (nullAs false flag) members))
      (optional ["desc"] "" (nullAs "" text) members)) v

def endpoint (v : Json) : Checked Endpoint :=
  record (fun members =>
    Checked.ap (Checked.ap (Checked.map Endpoint.mk
      (required ["method"] text members))
      (required ["url"] text members))
      (optional ["params"] [] (nullAs [] (list param)) members)) v

/-- A page inside others, with no more than `room` pages inside each other from here on. -/
def page : (room : Nat) → Json → Checked DocNode
  | 0, _ => .refuse .endless
  | room + 1, v =>
    record (fun members =>
      Checked.ap (Checked.ap (Checked.ap (Checked.ap (Checked.ap (Checked.ap (Checked.map DocNode.mk
        (required ["title"] text members))
        (required ["slug"] text members))
        (required ["type"] text members))
        (optional ["body"] "" (nullAs "" text) members))
        (optional ["excerpt"] "" (nullAs "" text) members))
        (optional ["api"] none (nullable endpoint) members))
        (optional ["children"] [] (nullAs [] (list (page room))) members)) v

def docNode (v : Json) : Checked DocNode := page maxNesting v

end Decode

end ClientScribe
