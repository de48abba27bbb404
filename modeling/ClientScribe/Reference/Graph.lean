import ClientScribe.Reference.Basic

/-!
Looking up references: by id, and by the type that owns them.
-/

namespace ClientScribe

/-- What a type owns: its requests in order, and its first error list. -/
structure Children where
  requests : List (Reference × Request)
  enum : Option Reference

def Children.isEmpty (c : Children) : Bool := c.requests.isEmpty && c.enum.isNone

/-- The first reference with the id. -/
def Reference.find? (id : String) (rs : List Reference) : Option Reference :=
  rs.find? fun r => r.id == id

def Reference.request? (r : Reference) : Option (Reference × Request) :=
  match r.content with
  | .request request => some (r, request)
  | _ => none

def Reference.isEnum (r : Reference) : Bool :=
  match r.content with
  | .enum _ => true
  | _ => false

/-- What the references with the given parent are. -/
def Reference.children (parent : Option String) (rs : List Reference) : Children :=
  let owned := rs.filter fun r => r.parent == parent
  ⟨owned.filterMap Reference.request?, owned.find? Reference.isEnum⟩

end ClientScribe
