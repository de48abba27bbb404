import ClientScribe.Json.Basic

/-!
What checks see of a value.  Values come from JSON texts and from configuration files, which share
most kinds; a record shows those of its members whose keys are texts.
-/

namespace ClientScribe

inductive Shape (α : Type) where
  | null
  | bool (b : Bool)
  | int (n : Int)
  | float (x : Float)
  | text (s : String)
  | bytes (bs : List UInt8)
  | list (items : List α)
  | record (members : List (String × α))
  /-- Nothing that a check could ask for. -/
  | other

def Shape.map {α β : Type} (f : α → β) : Shape α → Shape β
  | .null => .null
  | .bool b => .bool b
  | .int n => .int n
  | .float x => .float x
  | .text s => .text s
  | .bytes bs => .bytes bs
  | .list items => .list (items.map f)
  | .record members => .record (members.map fun m => (m.1, f m.2))
  | .other => .other

/-- Values that can be checked. -/
class View (α : Type) where
  shape : α → Shape α
  /-- What tells a value that may be inside itself from others. -/
  mark? : α → Option Nat

open View (shape mark?)

instance : View Json where
  shape
    | .null => .null
    | .bool b => .bool b
    | .int n => .int n
    | .float x => .float x
    | .str s => .text s
    | .arr items => .list items
    | .obj members => .record members
  mark? _ := none

instance {α β : Type} [View α] [View β] : View (α ⊕ β) where
  shape
    | .inl a => (shape a).map .inl
    | .inr b => (shape b).map .inr
  mark?
    | .inl a => mark? a
    | .inr b => mark? b

/-- A JSON value that was read from a text for the purpose of being checked. -/
structure Json.Written where
  value : Json

/-- Whole numbers from here on are too long to be looked at. -/
def Json.longNumber : Nat := 1000000000000000000

instance : View Json.Written where
  shape v :=
    match v.value with
    | .int n => if n.natAbs < Json.longNumber then .int n else .other
    | v => (shape v).map Json.Written.mk
  mark? _ := none

end ClientScribe
