import ClientScribe.Yaml.Directive

/-!
Tokens: what a document consists of once its layout is understood.  Indentation has become starts
and ends of blocks, and every key is announced.  A fault in the text is the last token, since what
stands before it may be at fault already.
-/

namespace ClientScribe.Yaml

/-- A text at a leaf of a document. -/
structure Scalar where
  text : List Char
  /-- Whether it stands without quotes, so that its text tells what it is. -/
  plain : Bool
deriving DecidableEq, Repr

namespace Scalar

/-- What stands for nothing at all. -/
def empty : Scalar := ⟨[], true⟩

/-- A text in quotes or in a block. -/
def ofText (text : List Char) : Scalar := ⟨text, false⟩

end Scalar

inductive Token where
  | directive (d : Directive)
  | documentStart
  | documentEnd
  | blockSequence
  | blockMapping
  | blockEnd
  | flowSequence
  | flowSequenceEnd
  | flowMapping
  | flowMappingEnd
  /-- An item of a block sequence follows. -/
  | entry
  | comma
  | key
  | value
  | alias (name : String)
  | anchor (name : String)
  | tag (name : TagName)
  | scalar (s : Scalar)
  /-- What comes next cannot be cut. -/
  | broken (fault : Fault)
deriving DecidableEq, Repr

end ClientScribe.Yaml
