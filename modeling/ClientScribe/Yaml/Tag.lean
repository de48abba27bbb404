import ClientScribe.Yaml.Moment
import ClientScribe.Yaml.Number

/-!
Tags: what a node is.  A tag may be written; a plain scalar without one is what its text looks like,
and every other scalar is a text.
-/

namespace ClientScribe.Yaml

inductive Tag where
  | null
  | bool
  | int
  | float
  | binary
  | timestamp
  | str
  | seq
  | map
  | set
  | pairs
  | orderedMap
  /-- As a key: the value holds entries to take over. -/
  | merge
  /-- As a key: the value stands for the whole mapping where a scalar is expected. -/
  | value
  | unknown
deriving DecidableEq, Repr

namespace Tag

/-- What the URIs of the tags of the notation start with. -/
def base : String := "tag:yaml.org,2002:"

def names : List (String × Tag) :=
  [("null", .null), ("bool", .bool), ("int", .int), ("float", .float), ("binary", .binary),
   ("timestamp", .timestamp), ("str", .str), ("seq", .seq), ("map", .map), ("set", .set),
   ("pairs", .pairs), ("omap", .orderedMap), ("merge", .merge), ("value", .value)]

def ofUri (text : String) : Tag :=
  ((names.find? fun n => base ++ n.1 = text).map Prod.snd).getD .unknown

/-- The spellings of the two flags, in lower case. -/
def flags : List (String × Bool) :=
  [("yes", true), ("true", true), ("on", true), ("no", false), ("false", false), ("off", false)]

/-- A word in lower case, in upper case, or with a capital in front. -/
def caseForms (word : String) : List (List Char) :=
  let cs := word.toList
  [cs, (cs.take 1).map Char.toUpper ++ cs.drop 1, cs.map Char.toUpper]

/-- What a plain line looks like. -/
def ofLine (s : List Char) : Tag :=
  if s.isEmpty || s = ['~'] || (caseForms "null").contains s then .null
  else if flags.any fun f => (caseForms f.1).contains s then .bool
  else if isFloat s then .float
  else if isInt s then .int
  else if s = ['<', '<'] then .merge
  else if Moment.isText s then .timestamp
  else if s = ['='] then .value
  else .str

/-- What a plain text looks like; a line end behind it does not count. -/
def ofPlain (s : List Char) : Tag := if s = ['\n'] then .str else ofLine (dropLineEnd s)

end Tag

end ClientScribe.Yaml
