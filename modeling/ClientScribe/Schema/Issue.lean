/-!
What is wrong with a value that should describe something: each issue has a reason and the path
from the value as a whole to the place.
-/

namespace ClientScribe

inductive Reason where
  | missing
  | notText
  /-- A text that is none in Unicode. -/
  | notUnicode
  | notList
  | notFlag
  /-- A text or number that could be a flag but is none of the known spellings. -/
  | unreadableFlag
  | notRecord
  /-- A record inside itself, or inside too many others. -/
  | endless
  | notReference
  | noKind
  | unknownKind
  | notJson
  /-- No issue of a value: what is to be checked is inside too many others to be written. -/
  | unwritable
deriving DecidableEq, Repr

def Reason.code : Reason → String
  | .missing => "missing"
  | .notText => "string_type"
  | .notUnicode => "string_unicode"
  | .notList => "list_type"
  | .notFlag => "bool_type"
  | .unreadableFlag => "bool_parsing"
  | .notRecord => "model_type"
  | .endless => "recursion_loop"
  | .notReference => "dict_type"
  | .noKind => "union_tag_not_found"
  | .unknownKind => "union_tag_invalid"
  | .notJson => "json_invalid"
  | .unwritable => "Circular reference detected (depth exceeded)"

/-- One step into a value. -/
inductive Issue.Step where
  | key (name : String)
  | index (i : Nat)
deriving DecidableEq, Repr

def Issue.Step.text : Issue.Step → String
  | .key name => name
  | .index i => toString i

structure Issue where
  path : List Issue.Step
  reason : Reason
deriving DecidableEq, Repr

/-- The path in one word; the value as a whole is `$`. -/
def Issue.location (issue : Issue) : String :=
  if issue.path.isEmpty then "$" else ".".intercalate (issue.path.map Issue.Step.text)

def Issue.text (issue : Issue) : String := s!"{issue.location}: {issue.reason.code}"

/-- All issues in one line. -/
def Issue.summary (issues : List Issue) : String := "; ".intercalate (issues.map Issue.text)

end ClientScribe
