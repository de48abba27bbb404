/-!
Types of documented fields.  A type is a node with a tag; what else is known of it refines the tag,
and every refinement may be absent.  Objects hold fields and arrays hold element types, to any
depth.
-/

namespace ClientScribe

mutual

structure TypeNode where
  /-- `string`, `number`, `boolean`, `object`, `array`, `unknown`, or a word of the document. -/
  tag : String
  /-- What every value of a string type begins with. -/
  startsWith : Option String
  possibleValues : Option (List String)
  /-- The fields of an inline object. -/
  fields : Option (List TypeField)
  /-- The id of the reference that describes an object. -/
  id : Option String
  /-- The alternatives for the elements of an array. -/
  arrayTypes : Option (List TypeNode)

structure TypeField where
  name : String
  /-- The alternatives for the value. -/
  types : List TypeNode
  required : Bool
  description : String

end

/-- A type of which only the tag is known. -/
def TypeNode.plain (tag : String) : TypeNode := ⟨tag, none, none, none, none, none⟩

/-- An array with the given alternatives for its elements. -/
def TypeNode.arrayOf (types : List TypeNode) : TypeNode :=
  { TypeNode.plain "array" with arrayTypes := some types }

mutual

/-- Structural equality. -/
def TypeNode.same : TypeNode → TypeNode → Bool
  | ⟨t, s, p, f, i, a⟩, ⟨t', s', p', f', i', a'⟩ =>
    t == t' && s == s' && p == p' && i == i' && TypeField.sameOption f f'
      && TypeNode.sameOption a a'

def TypeNode.sameOption : Option (List TypeNode) → Option (List TypeNode) → Bool
  | none, none => true
  | some ts, some us => TypeNode.sameList ts us
  | _, _ => false

def TypeNode.sameList : List TypeNode → List TypeNode → Bool
  | [], [] => true
  | t :: ts, u :: us => TypeNode.same t u && TypeNode.sameList ts us
  | _, _ => false

def TypeField.same : TypeField → TypeField → Bool
  | ⟨n, ts, r, d⟩, ⟨n', us, r', d'⟩ => n == n' && TypeNode.sameList ts us && r == r' && d == d'

def TypeField.sameOption : Option (List TypeField) → Option (List TypeField) → Bool
  | none, none => true
  | some fs, some gs => TypeField.sameList fs gs
  | _, _ => false

def TypeField.sameList : List TypeField → List TypeField → Bool
  | [], [] => true
  | f :: fs, g :: gs => TypeField.same f g && TypeField.sameList fs gs
  | _, _ => false

end

instance : BEq TypeNode := ⟨TypeNode.same⟩

instance : BEq TypeField := ⟨TypeField.same⟩

mutual

/-- How many types and fields are inside each other, from a type on. -/
def TypeNode.nesting : TypeNode → Nat
  | ⟨_, _, _, fields, _, arrayTypes⟩ =>
    max (TypeField.nesting? fields) (TypeNode.nesting? arrayTypes) + 1

def TypeNode.nesting? : Option (List TypeNode) → Nat
  | none => 0
  | some ts => TypeNode.nestingOf ts

def TypeNode.nestingOf : List TypeNode → Nat
  | [] => 0
  | t :: ts => max t.nesting (TypeNode.nestingOf ts)

def TypeField.nesting : TypeField → Nat
  | ⟨_, types, _, _⟩ => TypeNode.nestingOf types + 1

def TypeField.nesting? : Option (List TypeField) → Nat
  | none => 0
  | some fs => TypeField.nestingOf fs

def TypeField.nestingOf : List TypeField → Nat
  | [] => 0
  | f :: fs => max f.nesting (TypeField.nestingOf fs)

end

end ClientScribe
