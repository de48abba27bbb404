import ClientScribe.Text.Blank
import ClientScribe.Text.Search
import ClientScribe.Text.Word

/-!
Clues about a type in the prose of its description: what a string begins with, the values or fields
that a list of bullets names, and the page that describes an object.
-/

namespace ClientScribe.Clue

open Text (isWord isBlank strip? run? search)

def isWordOrBlank (c : Char) : Bool := isWord c || isBlank c

/-- The bold word behind `starting with`. -/
def beginning? : List Char → Option (List Char) :=
  search fun s => do
    let s ← strip? "starting with **".toList s
    let (word, s) ← run? isWord s
    let _ ← strip? ['*', '*'] s
    return word

/-- What follows the mark of a bullet at the start of a line: `*`, which may be escaped, or `-`. -/
def afterBullet? : List Char → Option (List Char)
  | '\\' :: '*' :: s => some (s.dropWhile isBlank)
  | '*' :: s => some (s.dropWhile isBlank)
  | '-' :: s => some (s.dropWhile isBlank)
  | _ => none

/-- The words between `fence` and `fence` behind the bullet of a line. -/
def bulletWords? (fence line : List Char) : Option (List Char) := do
  let s ← afterBullet? line
  let s ← strip? fence s
  let (words, s) ← run? isWordOrBlank s
  let _ ← strip? fence s
  return Text.trim words

/-- The fenced words of all bullets, line by line. -/
def bullets (fence description : List Char) : List (List Char) :=
  (Text.lines description).filterMap (bulletWords? fence)

/-- The bold bullets of a description that announces values. -/
def values (description : List Char) : List (List Char) :=
  if Text.has "of the following".toList description || Text.has "ossible values".toList description
  then bullets ['*', '*'] description
  else []

/-- The bullets in code quotes of a description that announces fields. -/
def fieldNames (description : List Char) : List (List Char) :=
  if Text.has "the following fields".toList description then bullets "`".toList description
  else []

/-- Whether two characters agree but for their case; the long `ſ` is an `s`. -/
def sameLetter (letter c : Char) : Bool := c.toLower = letter || (letter = 's' && c = 'ſ')

/-- The text behind `start`, given in lower case, if it begins so in any case. -/
def stripAnyCase? : (start s : List Char) → Option (List Char)
  | [], s => some s
  | _ :: _, [] => none
  | letter :: start, c :: s => if sameLetter letter c then stripAnyCase? start s else none

/-- The slug of the first link of the form `see [words](ref:slug)`. -/
def link? : List Char → Option (List Char) :=
  search fun s => do
    let s ← stripAnyCase? "see [".toList s
    let (_, s) ← run? isWordOrBlank s
    let s ← stripAnyCase? "](ref:".toList s
    let (slug, s) ← run? (fun c => isWord c || c = '-') s
    let _ ← strip? [')'] s
    return slug

end ClientScribe.Clue
