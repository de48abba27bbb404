import ClientScribe.Text.Hex
import ClientScribe.Yaml.Cursor

/-!
What may stand in front of a node: the name of an anchor, and a tag in one of its three spellings.
Each reader starts behind the sign and gives the text left.
-/

namespace ClientScribe.Yaml

/-- The name of an anchor or an alias. -/
def anchorName (s : List Char) : Except Fault (String × List Char) :=
  let name := s.takeWhile isNameChar
  let rest := s.dropWhile isNameChar
  let ends := atGap rest || rest.head?.any ['?', ':', ',', ']', '\x7d', '%', '@', '\x60'].contains
  if name.isEmpty || !ends then .error .malformed else .ok (String.ofList name, rest)

def isUriChar (c : Char) : Bool :=
  c.isAlphanum || ['-', ';', '/', '?', ':', '@', '&', '=', '+', '$', ',', '_', '.', '!', '~', '*',
    '\'', '(', ')', '[', ']'].contains c

/-- The bytes of a URI; an escape is a byte. -/
def uriBytes : List Char → Except Fault (List UInt8 × List Char)
  | '%' :: a :: b :: s =>
    if Text.isHex a && Text.isHex b then
      (uriBytes s).map fun (bytes, rest) => (UInt8.ofNat (Text.hexNumber [a, b]) :: bytes, rest)
    else .error .malformed
  | c :: s =>
    if c = '%' then .error .malformed
    else if isUriChar c then
      (uriBytes s).map fun (bytes, rest) => (UInt8.ofNat c.toNat :: bytes, rest)
    else .ok ([], c :: s)
  | [] => .ok ([], [])

/-- Reads a URI that is not empty. -/
def uri (s : List Char) : Except Fault (String × List Char) :=
  match uriBytes s with
  | .error fault => .error fault
  | .ok (bytes, rest) =>
    match String.fromUTF8? ⟨bytes.toArray⟩ with
    | some text => if bytes.isEmpty then .error .malformed else .ok (text, rest)
    | none => .error .malformed

/-- A tag as it is written: in full, or behind a handle that stands for its beginning. -/
structure TagName where
  handle : Option String
  rest : String
deriving DecidableEq, Repr

/-- The handle of a tag that has a name between two signs, read behind the first. -/
def namedHandle (s : List Char) : Except Fault (String × List Char) :=
  match s.dropWhile isNameChar with
  | '!' :: rest => .ok (String.ofList ('!' :: s.takeWhile isNameChar ++ ['!']), rest)
  | _ => .error .malformed

def TagName.short (handle : String) (s : List Char) : Except Fault (TagName × List Char) :=
  (uri s).map fun (text, rest) => (⟨some handle, text⟩, rest)

/-- A tag between angle brackets, read behind the first. -/
def TagName.full (s : List Char) : Except Fault (TagName × List Char) :=
  match uri s with
  | .ok (text, '>' :: rest) => .ok (⟨none, text⟩, rest)
  | _ => .error .malformed

/-- Reads a tag behind its sign. -/
def TagName.read (s : List Char) : Except Fault (TagName × List Char) :=
  let isNamed := (s.takeWhile fun c => c ≠ ' ' && !isBreak c).contains '!'
  let tag :=
    if s.head? = some '<' then full (s.drop 1)
    else if atGap s then .ok (⟨none, "!"⟩, s)
    else if isNamed then (namedHandle s).bind fun (handle, s) => short handle s
    else short "!" s
  match tag with
  | .error fault => .error fault
  | .ok (name, rest) => if atSpace rest then .ok (name, rest) else .error .malformed

end ClientScribe.Yaml
