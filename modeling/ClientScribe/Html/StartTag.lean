import ClientScribe.Html.CharRef
import ClientScribe.Text.Blank
import ClientScribe.Text.Case

/-!
Start tags.  Attributes are separated by blanks and slashes; a value is quoted or runs up to a blank
or `>`.  Names are lower case whatever the text has, and references in values are replaced.
-/

namespace ClientScribe.Html

open Text (isBlank)

structure StartTag where
  name : String
  /-- Names and values in the order of the text. -/
  attributes : List (String × String)
  /-- Whether the tag ends in `/>`. -/
  selfClosing : Bool
deriving DecidableEq, Repr

/-- The value of an attribute; of attributes with one name the last counts. -/
def StartTag.value? (t : StartTag) (name : String) : Option String :=
  t.attributes.reverse.lookup name

def isQuote (c : Char) : Bool := c = '\'' || c = '"'

/-- The text behind blanks and slashes; the slash of `/>` is none of them. -/
def skipGap : List Char → List Char
  | [] => []
  | '/' :: '>' :: s => '/' :: '>' :: s
  | c :: s => if isBlank c || c = '/' then skipGap s else c :: s

/-- What ends the name of a tag. -/
def endsTagName (c : Char) : Bool :=
  c = '\t' || c = '\n' || c = '\r' || c = '\x0c' || c = ' ' || c = '/' || c = '>' || c = '\x00'

/-- Whether a character may begin the name of an attribute. -/
def startsAttribute (c : Char) : Bool := !(isBlank c || c = '/' || c = '>')

def isAttributeName (c : Char) : Bool := startsAttribute c && c ≠ '='

def isBareValue (c : Char) : Bool := !(isBlank c || c = '>')

/-- A value without quotes. -/
def bareValue (s : List Char) : List Char × List Char :=
  (s.takeWhile isBareValue, s.dropWhile isBareValue)

/-- The value behind a run of `signs` equals signs.  A quote that is not closed begins no value:
then the value is empty where blanks precede the quote, and else begins with the last sign of
several. -/
def valueBehind? (signs : Nat) (s : List Char) : Option (List Char × List Char) :=
  match s.dropWhile isBlank with
  | [] => some ([], [])
  | c :: inner =>
    if !isQuote c then some (bareValue (c :: inner))
    else if inner.contains c then
      some (inner.takeWhile (· ≠ c), (inner.dropWhile (· ≠ c)).drop 1)
    else if (s.head?.map isBlank).getD false then some ([], s)
    else if 1 < signs then some (bareValue ('=' :: s))
    else none

/-- The value of an attribute behind its name, if it has one. -/
def value? (s : List Char) : Option (List Char × List Char) :=
  let s := s.dropWhile isBlank
  match s.takeWhile (· = '=') with
  | [] => none
  | signs => valueBehind? signs.length (s.drop signs.length)

/-- Whether an attribute may follow a text at once: behind a quote or a blank. -/
def endsOpen (s : List Char) : Bool := s.getLast?.any fun c => isQuote c || isBlank c

/-- One attribute, with its value as it is written; the text behind it; and whether another one may
begin there. -/
def attribute? : List Char → Option ((String × List Char) × List Char × Bool)
  | [] => none
  | c :: s =>
    if !startsAttribute c then none
    else
      let name := c :: s.takeWhile isAttributeName
      let behind := s.dropWhile isAttributeName
      let lower := String.ofList (Text.lower name)
      match value? behind with
      | none =>
        let rest := skipGap behind
        some ((lower, []), rest, rest.length < behind.length || endsOpen name)
      | some (value, rest) => some ((lower, value), skipGap rest, true)

/-- The attributes at the start of the text; each takes a character, so `rounds` may be the length
of the text. -/
def attributes (rounds : Nat) (mayStart : Bool) (s : List Char) :
    List (String × List Char) × List Char :=
  match rounds with
  | 0 => ([], s)
  | rounds + 1 =>
    if !mayStart then ([], s)
    else
      match attribute? s with
      | none => ([], s)
      | some (a, rest, mayStart) =>
        let (others, rest) := attributes rounds mayStart rest
        (a :: others, rest)

/-- What the text behind `<` turns out to be. -/
inductive TagScan where
  | tag (t : StartTag) (rest : List Char)
  /-- The text ends, or a value begins, where the tag should. -/
  | incomplete
  /-- No tag, but mere text up to `rest`. -/
  | text (rest : List Char)
  /-- A reference in a value has too many digits. -/
  | longRef (digits : Nat)

/-- What ends a tag, or shows that there is none. -/
def tagEnd (name : String) (found : List (String × List Char)) (rest : List Char) : TagScan :=
  let tag := StartTag.mk name (found.map fun a => (a.1, String.ofList (unescape a.2)))
  match rest with
  | '>' :: rest => .tag (tag false) rest
  | '/' :: '>' :: rest => .tag (tag true) rest
  | rest => .text rest

/-- Whether a tag goes on where its attributes end. -/
def isUnfinished : List Char → Bool
  | [] => true
  | '/' :: '>' :: _ => false
  | c :: _ => c.isAlpha || c = '=' || c = '/'

/-- A start tag behind its `<`; the text begins with a letter. -/
def startTag (s : List Char) : TagScan :=
  let name := s.takeWhile fun c => !endsTagName c
  let behind := s.dropWhile fun c => !endsTagName c
  let gap := skipGap behind
  let (found, rest) := attributes gap.length (gap.length < behind.length || endsOpen name) gap
  if isUnfinished rest then .incomplete
  else
    match found.findSome? fun a => longRef? a.2 with
    | some digits => .longRef digits
    | none => tagEnd (String.ofList (Text.lower name)) found rest

end ClientScribe.Html
