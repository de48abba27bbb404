import ClientScribe.Text.Search

/-!
Names of files and folders: what stands in front of a path and its segments.  Empty segments and `.`
mean nothing and are dropped; `..` stays, as it depends on the folder it is met in.
-/

namespace ClientScribe

structure FilePath where
  /-- The slashes that make a path absolute: none, one, or two. -/
  root : String
  segments : List String
deriving DecidableEq, Repr

namespace FilePath

/-- Exactly two slashes in front are kept; any other number is the same as one. -/
def rootOf (path : List Char) : String :=
  match (path.takeWhile (· = '/')).length with
  | 0 => ""
  | 2 => "//"
  | _ => "/"

/-- Whether a segment names anything. -/
def isSegment (segment : List Char) : Bool := !segment.isEmpty && segment != ['.']

def ofText (path : String) : FilePath :=
  ⟨rootOf path.toList,
    ((Text.splitOn '/' path.toList).filter isSegment).map String.ofList⟩

/-- The path as it is written; the path of nothing is `.`. -/
def text (p : FilePath) : String :=
  if p.root.isEmpty && p.segments.isEmpty then "." else p.root ++ "/".intercalate p.segments

/-- The path `b` as seen from `a`; an absolute `b` stands for itself. -/
def join (a b : FilePath) : FilePath :=
  if b.root.isEmpty then { a with segments := a.segments ++ b.segments } else b

/-- The path without its last segment. -/
def parent (p : FilePath) : FilePath := { p with segments := p.segments.dropLast }

example : (ofText "a//./b/../c/").text = "a/b/../c" := by decide

example : (ofText "").text = "." := by decide

end FilePath

end ClientScribe
