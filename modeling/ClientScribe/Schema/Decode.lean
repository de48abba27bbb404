import ClientScribe.Decimal.Shortest
import ClientScribe.Schema.Checked
import ClientScribe.Schema.View

/-!
Checks of values: texts, flags, lists and the members of a record.  A member may have several
spellings, of which the first that is present counts.
-/

namespace ClientScribe.Decode

open View (shape mark?)

variable {α β : Type}

/-- Bytes are a text if they hold one. -/
def ofBytes (bs : List UInt8) : Checked String :=
  match String.fromUTF8? ⟨bs.toArray⟩ with
  | some s => .ok s
  | none => .refuse .notUnicode

def text [View β] (v : β) : Checked String :=
  match shape v with
  | .text s => .ok s
  | .bytes bs => ofBytes bs
  | _ => .refuse .notText

/-- The spellings of the two flags, in lower case. -/
def flagSpellings : List (String × Bool) :=
  [("0", false), ("f", false), ("n", false), ("no", false), ("off", false), ("false", false),
   ("1", true), ("t", true), ("y", true), ("yes", true), ("on", true), ("true", true)]

/-- The numbers of 64 bits end in front of this one and begin with its opposite. -/
def wordEnd : Int := 0x8000000000000000

/-- Zero and one are flags; other whole numbers of 64 bits only look like flags. -/
def flagOfInt (n : Int) : Checked Bool :=
  if n = 0 then .ok false
  else if n = 1 then .ok true
  else if -wordEnd ≤ n && n < wordEnd then .refuse .unreadableFlag
  else .refuse .notFlag

/-- A floating-point number is a flag if its whole value is; the least number of 64 bits is out
of range here. -/
def flagOfFloat (x : Float) : Checked Bool :=
  match Decimal.whole? x with
  | none => .refuse .notFlag
  | some n => if n = -wordEnd then .refuse .notFlag else flagOfInt n

def flagOfText (s : String) : Checked Bool :=
  match flagSpellings.lookup (String.ofList (s.toList.map Char.toLower)) with
  | some b => .ok b
  | none => .refuse .unreadableFlag

def flag [View β] (v : β) : Checked Bool :=
  match shape v with
  | .bool b => .ok b
  | .int n => flagOfInt n
  | .float x => flagOfFloat x
  | .text s => flagOfText s
  | .bytes bs =>
    match String.fromUTF8? ⟨bs.toArray⟩ with
    | some s => flagOfText s
    | none => .refuse .unreadableFlag
  | _ => .refuse .notFlag

/-- The items of a list, of which the first has index `i`. -/
def itemsFrom (check : β → Checked α) (i : Nat) : List β → Checked (List α)
  | [] => .ok []
  | v :: vs => .cons ((check v).under (.index i)) (itemsFrom check (i + 1) vs)

def list [View β] (check : β → Checked α) (v : β) : Checked (List α) :=
  match shape v with
  | .list vs => itemsFrom check 0 vs
  | _ => .refuse .notList

def isNull [View β] (v : β) : Bool :=
  match shape v with
  | .null => true
  | _ => false

/-- Null stands for an absent value. -/
def nullable [View β] (check : β → Checked α) (v : β) : Checked (Option α) :=
  if isNull v then .ok none else (check v).map some

/-- Null stands for the default. -/
def nullAs [View β] (default : α) (check : β → Checked α) (v : β) : Checked α :=
  if isNull v then .ok default else check v

/-- A record, by its members. -/
def record [View β] (check : List (String × β) → Checked α) (v : β) : Checked α :=
  match shape v with
  | .record members => check members
  | _ => .refuse .notRecord

/-- The member under the first spelling that is present, with that spelling. -/
def pick (spellings : List String) (members : List (String × β)) : Option (String × β) :=
  spellings.findSome? fun k => (members.lookup k).map fun v => (k, v)

/-- A member that has to be present. -/
def required (spellings : List String) (check : β → Checked α) (members : List (String × β)) :
    Checked α :=
  match pick spellings members with
  | some (k, v) => (check v).under (.key k)
  | none => (Checked.refuse .missing).under (.key (spellings.headD ""))

/-- A member that may be absent. -/
def optional (spellings : List String) (default : α) (check : β → Checked α)
    (members : List (String × β)) : Checked α :=
  match pick spellings members with
  | some (k, v) => (check v).under (.key k)
  | none => .ok default

/-! ### Nesting -/

/-- How many records of kinds that hold each other may be nested where they are read or written. -/
def maxNesting : Nat := 254

/-- The kinds of records that hold each other. -/
inductive Role where
  | type
  | field
deriving DecidableEq, Repr

/-- The records around a value as far as they may be inside themselves, with what each is taken
for. -/
abbrev Around := List (Role × Nat)

/-- The records around what is inside a value. -/
def Around.enter [View β] (around : Around) (role : Role) (v : β) : Around :=
  match mark? v with
  | some mark => (role, mark) :: around
  | none => around

/-- Whether a value is inside itself, taken for the same. -/
def Around.holds [View β] (around : Around) (role : Role) (v : β) : Bool :=
  (mark? v).any fun mark => around.contains (role, mark)

/-- A record inside others, by its members and by the records around what they hold. -/
def nested [View β] (role : Role) (check : Around → List (String × β) → Checked α)
    (around : Around) (v : β) : Checked α :=
  if around.holds role v then .refuse .endless else record (check (around.enter role v)) v

end ClientScribe.Decode
