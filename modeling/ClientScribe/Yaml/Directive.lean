import ClientScribe.Text.Integer
import ClientScribe.Yaml.Property

/-!
Directives: lines in front of a document that name the version of the notation and the handles of
tags.  Unknown directives mean nothing.
-/

namespace ClientScribe.Yaml

inductive Directive where
  | version (major : Nat)
  /-- What a handle of tags stands for. -/
  | handle (name text : String)
  | other
deriving DecidableEq, Repr

namespace Directive

/-- The number that ASCII digits write. -/
def number (s : List Char) : Except Fault (Nat × List Char) :=
  let digits := s.takeWhile Char.isDigit
  if digits.isEmpty then .error .malformed
  else if Text.maxDigits < digits.length then .error (.tooManyDigits digits.length)
  else .ok (Text.digitsValue (digits.map fun c => c.toNat - 48), s.dropWhile Char.isDigit)

def readVersion (s : List Char) : Except Fault (Directive × List Char) :=
  match number s with
  | .error fault => .error fault
  | .ok (major, '.' :: s) =>
    match number s with
    | .ok (_, rest) => if atSpace rest then .ok (.version major, rest) else .error .malformed
    | .error fault => .error fault
  | .ok _ => .error .malformed

/-- The handle that is declared, with or without a name. -/
def declaredHandle : List Char → Except Fault (String × List Char)
  | '!' :: ' ' :: s => .ok ("!", ' ' :: s)
  | '!' :: s => namedHandle s
  | _ => .error .malformed

def readHandle (s : List Char) : Except Fault (Directive × List Char) :=
  match declaredHandle s with
  | .ok (name, ' ' :: s) =>
    match uri (s.dropWhile (· = ' ')) with
    | .ok (text, rest) => if atSpace rest then .ok (.handle name text, rest) else .error .malformed
    | .error fault => .error fault
  | _ => .error .malformed

/-- Reads a directive behind its sign, up to the end of its line. -/
def read (s : List Char) : Except Fault (Directive × List Char) :=
  let name := s.takeWhile isNameChar
  let rest := s.dropWhile isNameChar
  if name.isEmpty || !atSpace rest then .error .malformed
  else
    let start := rest.dropWhile (· = ' ')
    let directive :=
      if name = ['Y', 'A', 'M', 'L'] then readVersion start
      else if name = ['T', 'A', 'G'] then readHandle start
      else .ok (.other, rest.dropWhile fun c => !isBreak c)
    match directive with
    | .error fault => .error fault
    | .ok (d, rest) => (lineEnd rest).map fun rest => (d, rest)

end Directive

end ClientScribe.Yaml
