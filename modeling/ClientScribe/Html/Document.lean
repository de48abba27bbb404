import ClientScribe.Html.StartTag
import ClientScribe.Text.Quoted

/-!
The elements of a page, as its start tags in the order of the text.  Comments, declarations and the
contents of scripts and style sheets hold no elements.  What a page begins and does not finish
counts as text; the search then goes on in a final pass that gives up at the next broken reference.
-/

namespace ClientScribe.Html

open Text (isBlank strip?)

/-- Why a page is refused as a whole. -/
inductive MarkupFault where
  /-- A marked section without a keyword, and the text from there on. -/
  | noKeyword (near : String)
  | unknownKeyword (keyword : String)
  /-- A character reference of too many digits. -/
  | longRef (digits : Nat)
deriving DecidableEq, Repr

def MarkupFault.message : MarkupFault → String
  | .noKeyword near => "expected name token at " ++ String.ofList (Text.quoted near.toList)
  | .unknownKeyword keyword =>
    "unknown status keyword " ++ String.ofList (Text.quoted keyword.toList) ++ " in marked section"
  | .longRef digits => Text.excessDigits digits

/-- What stands at a `<` or `&`. -/
inductive Found where
  | tag (t : StartTag) (rest : List Char)
  | text (rest : List Char)
  | incomplete
  | brokenReference (rest : List Char)
  | refused (fault : MarkupFault)

/-- The text behind the first `>`. -/
def upToClose (s : List Char) : Found :=
  match s.dropWhile (· ≠ '>') with
  | [] => .incomplete
  | _ :: rest => .text rest

/-- The text behind the first place where `ending` applies. -/
def upTo (ending : List Char → Option (List Char)) (s : List Char) : Found :=
  match Text.search ending s with
  | some rest => .text rest
  | none => .incomplete

/-- A mark, blanks and `>`. -/
def closing? (mark s : List Char) : Option (List Char) := do
  let s ← strip? mark s
  strip? ['>'] (s.dropWhile isBlank)

/-- Two brackets and `>`, with blanks between. -/
def sectionEnd? (s : List Char) : Option (List Char) := do
  let s ← strip? [']'] s
  closing? [']'] (s.dropWhile isBlank)

def isKeywordChar (c : Char) : Bool := c.isAlphanum || c = '-' || c = '_' || c = '.'

/-- A marked section behind its `<![`. -/
def markedSection (s : List Char) : Found :=
  match s with
  | [] => .incomplete
  | c :: _ =>
    if !c.isAlpha then .refused (.noKeyword (String.ofList (('<' :: '!' :: '[' :: s).take 20)))
    else
      let keyword := s.takeWhile isKeywordChar
      let behind := (s.dropWhile isKeywordChar).dropWhile isBlank
      let name := String.ofList (keyword.map Char.toLower)
      if behind.isEmpty then .incomplete
      else if ["temp", "cdata", "ignore", "include", "rcdata"].contains name then
        upTo sectionEnd? s
      else if ["if", "else", "endif"].contains name then upTo (closing? [']']) s
      else .refused (.unknownKeyword (String.ofList (s.take (s.length - behind.length))))

/-- A reference by number behind its `&#`: its digits are followed by a character that is no
hexadecimal digit. -/
def numberRef (s : List Char) : Found :=
  let (digits, isDigit) : List Char × (Char → Bool) :=
    match s with
    | 'x' :: s => (s, Text.isHex)
    | 'X' :: s => (s, Text.isHex)
    | s => (s, Char.isDigit)
  match Text.run? isDigit digits with
  | some (ds, c :: _) =>
    if Text.isHex c then .brokenReference s
    else if digits.length = s.length && Text.maxDigits < ds.length then
      .refused (.longRef ds.length)
    else .text s
  | _ => .brokenReference s

/-- What stands at the start of the text. -/
def construct : List Char → Found
  | '<' :: '/' :: s => upToClose s
  | '<' :: '!' :: '-' :: '-' :: s => upTo (closing? ['-', '-']) s
  | '<' :: '!' :: '[' :: s => markedSection s
  | '<' :: '!' :: s => upToClose s
  | '<' :: '?' :: s => upToClose s
  | '<' :: c :: s =>
    if c.isAlpha then
      match startTag (c :: s) with
      | .tag t rest => .tag t rest
      | .incomplete => .incomplete
      | .text rest => .text rest
      | .longRef digits => .refused (.longRef digits)
    else .text (c :: s)
  | '&' :: '#' :: s => numberRef s
  | s => .text (s.drop 1)

/-- The text behind something that is begun and not finished: behind the next `>`, or else from the
next `<` on. -/
def behindIncomplete (s : List Char) : List Char :=
  match s.dropWhile (· ≠ '>') with
  | _ :: rest => rest
  | [] => s.dropWhile (· ≠ '<')

/-- The elements whose content is no markup. -/
def rawElements : List String := ["script", "style"]

/-- The end tag of a raw element. -/
def rawEnd? (name : String) (s : List Char) : Option (List Char) := do
  let s ← strip? ['<', '/'] s
  let s := s.dropWhile isBlank
  let start := s.take name.length
  if String.ofList (start.map Char.toLower) = name then
    strip? ['>'] ((s.drop name.length).dropWhile isBlank)
  else none

/-- Where markup goes on behind a start tag; a raw element that is not closed has no end. -/
def behindTag (t : StartTag) (rest : List Char) : List Char :=
  if rawElements.contains t.name && !t.selfClosing then
    (Text.search (rawEnd? t.name) rest).getD []
  else rest

/-- The start tags of a text.  Each round takes a character, so `rounds` may be the length of the
text; `final` says whether the final pass has begun. -/
def tagsFrom (final : Bool) : (rounds : Nat) → List Char → Except MarkupFault (List StartTag)
  | 0, _ => .ok []
  | rounds + 1, s =>
    match s.dropWhile fun c => c ≠ '<' && c ≠ '&' with
    | [] => .ok []
    | c :: s =>
      match construct (c :: s) with
      | .tag t rest => (tagsFrom final rounds (behindTag t rest)).map (t :: ·)
      | .text rest => tagsFrom final rounds rest
      | .incomplete => tagsFrom true rounds (behindIncomplete s)
      | .brokenReference rest =>
        if final || !s.contains ';' then .ok [] else tagsFrom true rounds rest
      | .refused fault => .error fault

/-- The start tags of a page. -/
def tags (page : String) : Except MarkupFault (List StartTag) :=
  tagsFrom false page.toList.length page.toList

/-- The first element with the id. -/
def elementById? (id : String) (tags : List StartTag) : Option StartTag :=
  tags.find? fun t => t.value? "id" == some id

end ClientScribe.Html
