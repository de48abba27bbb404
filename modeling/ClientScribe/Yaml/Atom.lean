import ClientScribe.Decimal.Shortest
import ClientScribe.Text.Base64
import ClientScribe.Text.Case
import ClientScribe.Yaml.Tag

/-!
Atoms: the values of scalars.  They alone may be keys, and two keys are one if their values are
equal, whatever their kinds: flags equal zero and one.
-/

namespace ClientScribe.Yaml

inductive Atom where
  | null
  | bool (b : Bool)
  | int (n : Int)
  | float (x : Float)
  /-- What is no number equals only itself: its usual spelling is one value, and any other gives its
  node a value of its own. -/
  | notNumber (node : Option Nat)
  | text (s : String)
  | bytes (bs : List UInt8)
  | moment (m : Moment)
deriving Inhabited

namespace Atom

/-- The whole number that a value equals. -/
def whole? : Atom → Option Int
  | bool b => some (if b then 1 else 0)
  | int n => some n
  | float x => Decimal.whole? x
  | _ => none

/-- Whether two keys are one. -/
def same : Atom → Atom → Bool
  | null, null => true
  | text a, text b => a = b
  | bytes a, bytes b => a = b
  | moment a, moment b => a.same b
  | notNumber a, notNumber b => a = b
  | float x, float y => x == y
  | a, b =>
    match a.whole?, b.whole? with
    | some m, some n => m = n
    | _, _ => false

def flag (s : List Char) : Except Fault Atom :=
  let word := Text.lower s
  match Tag.flags.lookup (String.ofList word) with
  | some b => .ok (.bool b)
  | none => .error (.noFlag word)

def number (node : Nat) (s : List Char) : Except Fault Atom :=
  (floatValue s).map fun x =>
    if x.isNaN then .notNumber (if spellsNan s then none else some node) else .float x

/-- Bytes are written in base 64, in ASCII. -/
def binary (s : List Char) : Except Fault Atom :=
  match Text.base64? s with
  | some bs => if s.all fun c => c.toNat < 128 then .ok (.bytes bs) else .error .malformed
  | none => .error .malformed

/-- What the text of a node means under a tag of scalars. -/
def read (node : Nat) (tag : Tag) (s : List Char) : Except Fault Atom :=
  match tag with
  | .null => .ok .null
  | .bool => flag s
  | .int => (intValue s).map .int
  | .float => number node s
  | .binary => binary s
  | .timestamp => (Moment.value s).map .moment
  | .str => .ok (.text (String.ofList s))
  | _ => .error .malformed

end Atom

/-- Whether a tag is one of scalars. -/
def Tag.isAtomic : Tag → Bool
  | .null | .bool | .int | .float | .binary | .timestamp | .str => true
  | _ => false

end ClientScribe.Yaml
