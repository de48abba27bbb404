import ClientScribe.Text.Search

/-!
Slash-separated paths as texts: joining, the directory of a path, and the way from one absolute path
to another.
-/

namespace ClientScribe.Path

/-- The path `b` as seen from `a`; an absolute `b` stands for itself. -/
def joinChars (a b : List Char) : List Char :=
  if b.head? = some '/' then b
  else if a = [] || a.getLast? = some '/' then a ++ b
  else a ++ '/' :: b

def join (a b : String) : String := String.ofList (joinChars a.toList b.toList)

/-- Everything in front of the last slash, without the slashes there unless nothing else is left. -/
def directory (path : String) : String :=
  let head := (path.toList.reverse.dropWhile (· ≠ '/')).reverse
  if head.all (· = '/') then String.ofList head
  else String.ofList (head.reverse.dropWhile (· = '/')).reverse

/-- Takes one more segment into an absolute path, kept last segment first.  Nothing is above the
root. -/
def enter (done : List (List Char)) (segment : List Char) : List (List Char) :=
  if segment = [] || segment = ['.'] then done
  else if segment = ['.', '.'] then done.drop 1
  else segment :: done

/-- The segments of an absolute path, without `.` and `..`. -/
def resolve (path : List Char) : List (List Char) :=
  ((Text.splitOn '/' path).foldl enter []).reverse

/-- The segments behind what two lists of segments have in common at their starts. -/
def diverge : List (List Char) → List (List Char) → List (List Char) × List (List Char)
  | a :: as, b :: bs => if a = b then diverge as bs else (a :: as, b :: bs)
  | as, bs => (as, bs)

/-- The segments that lead from one absolute path to another. -/
def wayTo (start target : List (List Char)) : List (List Char) :=
  let (up, down) := diverge start target
  up.map (fun _ => ['.', '.']) ++ down

/-- The path from one absolute path to another; from a path to itself it is `.`. -/
def relative (start target : List Char) : List Char :=
  match wayTo (resolve start) (resolve target) with
  | [] => ['.']
  | way => ['/'].intercalate way

end ClientScribe.Path
