import ClientScribe.Decimal.Layout
import ClientScribe.Json.Basic
import ClientScribe.Text.Quoted

/-!
Writing JSON text in ASCII: compactly on one line, or with one item or member a line.
-/

namespace ClientScribe.Json

def unitEscape (n : Nat) : List Char := '\\' :: 'u' :: Text.hex 4 n

/-- The escape of a character that has no place in a written string, by its 16-bit units. -/
def codeEscape (c : Char) : List Char :=
  match Text.half? c with
  | some unit => unitEscape unit
  | none =>
    if c.toNat < 0x10000 then unitEscape c.toNat
    else
      let n := c.toNat - 0x10000
      unitEscape (0xD800 + n / 0x400) ++ unitEscape (0xDC00 + n % 0x400)

/-- One character of a string. -/
def writtenChar (c : Char) : List Char :=
  match c with
  | '"' => ['\\', '"']
  | '\\' => ['\\', '\\']
  | '\n' => ['\\', 'n']
  | '\r' => ['\\', 'r']
  | '\t' => ['\\', 't']
  | '\x08' => ['\\', 'b']
  | '\x0c' => ['\\', 'f']
  | c => if ' ' ≤ c && c ≤ '~' then [c] else codeEscape c

def writtenString (s : String) : List Char := '"' :: s.toList.flatMap writtenChar ++ ['"']

def writtenFloat (x : Float) : List Char :=
  if x.isNaN then "NaN".toList
  else if x.isInf then (if x < 0 then "-Infinity" else "Infinity").toList
  else Decimal.text x

/-- A line break and the indentation of a level, two blanks for each. -/
def lineStart (level : Nat) : List Char := '\n' :: List.replicate (2 * level) ' '

/-- The layout of a written text. -/
inductive Layout where
  | compact
  /-- One item or member a line; the value itself stands at `level`. -/
  | indented (level : Nat)

def Layout.deeper : Layout → Layout
  | .compact => .compact
  | .indented level => .indented (level + 1)

/-- What stands in front of an item, a member or a closing bracket. -/
def Layout.gap : Layout → List Char
  | .compact => []
  | .indented level => lineStart level

def Layout.colon : Layout → List Char
  | .compact => [':']
  | .indented _ => [':', ' ']

mutual

def written (layout : Layout) : Json → List Char
  | .null => ['n', 'u', 'l', 'l']
  | .bool true => ['t', 'r', 'u', 'e']
  | .bool false => ['f', 'a', 'l', 's', 'e']
  | .int n => (toString n).toList
  | .float x => writtenFloat x
  | .str s => writtenString s
  | .arr [] => ['[', ']']
  | .arr (v :: vs) =>
    '[' :: layout.deeper.gap ++ written layout.deeper v ++ writtenItems layout.deeper vs
      ++ layout.gap ++ [']']
  | .obj [] => ['{', '}']
  | .obj ((k, v) :: ms) =>
    '{' :: layout.deeper.gap ++ writtenString k ++ layout.colon ++ written layout.deeper v
      ++ writtenMembers layout.deeper ms ++ layout.gap ++ ['}']

/-- The items of an array but for the first. -/
def writtenItems (layout : Layout) : List Json → List Char
  | [] => []
  | v :: vs => ',' :: layout.gap ++ written layout v ++ writtenItems layout vs

/-- The members of an object but for the first. -/
def writtenMembers (layout : Layout) : Members → List Char
  | [] => []
  | (k, v) :: ms =>
    ',' :: layout.gap ++ writtenString k ++ layout.colon ++ written layout v
      ++ writtenMembers layout ms

end

def compact (v : Json) : String := String.ofList (written .compact v)

def pretty (v : Json) : String := String.ofList (written (.indented 0) v)

end ClientScribe.Json
