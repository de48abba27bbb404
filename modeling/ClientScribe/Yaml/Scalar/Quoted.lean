import ClientScribe.Text.Hex
import ClientScribe.Text.Surrogate
import ClientScribe.Yaml.Cursor
import ClientScribe.Yaml.Token

/-!
Quoted scalars.  Lines are folded: the blanks around a line end are dropped, one line end becomes a
space, and of several the first is dropped.  Single quotes hold no escapes but a doubled quote;
double quotes hold escapes for any code, half a surrogate pair included, and for a line end that
should leave nothing.
-/

namespace ClientScribe.Yaml

open Text (isHex hexNumber)

/-- The codes that a backslash and a character stand for. -/
def escapes : List (Char × Nat) :=
  [('0', 0x00), ('a', 0x07), ('b', 0x08), ('t', 0x09), ('\t', 0x09), ('n', 0x0A), ('v', 0x0B),
   ('f', 0x0C), ('r', 0x0D), ('e', 0x1B), (' ', 0x20), ('"', 0x22), ('/', 0x2F), ('\\', 0x5C),
   ('N', 0x85), ('_', 0xA0), ('L', 0x2028), ('P', 0x2029)]

/-- How many hexadecimal digits follow a backslash and a letter. -/
def escapeWidth? : Char → Option Nat
  | 'x' => some 2
  | 'u' => some 4
  | 'U' => some 8
  | _ => none

/-- The character whose code the next `width` digits write. -/
def codeEscape (width : Nat) (s : List Char) : Except Fault (Char × List Char) :=
  let digits := s.take width
  if digits.length < width || !digits.all isHex then .error .malformed
  else if 0x10FFFF < hexNumber digits then .error (.noCharacter (hexNumber digits))
  else .ok (Text.ofCode (hexNumber digits), s.drop width)

/-- The characters that an escape leaves, read behind its backslash. -/
def escape : List Char → Except Fault (List Char × List Char)
  | [] => .error .malformed
  | c :: s =>
    match escapes.lookup c, escapeWidth? c with
    | some code, _ => .ok ([Char.ofNat code], s)
    | none, some width => (codeEscape width s).map fun (c, rest) => ([c], rest)
    | none, none =>
      if isBreak c then
        let lines := Lines.read isPad true s
        if lines.marked then .error .malformed else .ok (lines.breaks, lines.rest)
      else .error .malformed

/-- What blanks and line ends leave of themselves. -/
def quotedGap (s : List Char) : Except Fault (List Char × List Char) :=
  match s.dropWhile isPad with
  | [] => .error .malformed
  | c :: rest =>
    if isBreak c then
      let lines := Lines.read isPad true rest
      if lines.marked then .error .malformed
      else .ok (folded (plainBreak c) lines.breaks, lines.rest)
    else .ok (s.takeWhile isPad, c :: rest)

/-- The text up to the closing quote, and the text behind it; `done` holds what was read, last
character first.  Each round takes a character, so `rounds` may be the length of the text. -/
def quotedText (double : Bool) (rounds : Nat) (done : List Char) (s : List Char) :
    Except Fault (List Char × List Char) :=
  match rounds, s with
  | 0, _ => .error .malformed
  | _ + 1, [] => .error .malformed
  | rounds + 1, c :: s =>
    if double && c = '"' then .ok (done.reverse, s)
    else if !double && c = '\'' then
      match s with
      | '\'' :: s => quotedText double rounds (c :: done) s
      | s => .ok (done.reverse, s)
    else if double && c = '\\' then
      match escape s with
      | .error fault => .error fault
      | .ok (text, s) => quotedText double rounds (text.reverse ++ done) s
    else if isGap c then
      match quotedGap (c :: s) with
      | .error fault => .error fault
      | .ok (text, s) => quotedText double rounds (text.reverse ++ done) s
    else quotedText double rounds (c :: done) s

/-- Reads a quoted scalar behind its opening quote. -/
def Scalar.quoted (double : Bool) (s : List Char) : Except Fault (Scalar × List Char) :=
  (quotedText double (s.length + 1) [] s).map fun (text, rest) => (ofText text, rest)

end ClientScribe.Yaml
