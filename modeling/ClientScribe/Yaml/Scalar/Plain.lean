import ClientScribe.Yaml.Cursor
import ClientScribe.Yaml.Token

/-!
Plain scalars: texts without quotes.  A colon in front of a blank and a hash behind one end them,
and in brackets commas and brackets do.  They go on over lines that stand deep enough.
-/

namespace ClientScribe.Yaml

/-- What has a meaning of its own inside brackets. -/
def isFlowSign (c : Char) : Bool := [',', '[', ']', '\x7b', '\x7d'].contains c

/-- What has a meaning of its own, or none yet, at the start of a scalar. -/
def isSign (c : Char) : Bool :=
  ['#', '&', '*', '!', '|', '>', '\'', '"', '%', '@', '\x60'].contains c

/-- Whether a colon in front of this text ends a key. -/
def endsKey (flow : Bool) (s : List Char) : Bool :=
  atGap s || (flow && s.head?.any isFlowSign)

/-- Whether a plain scalar may start here. -/
def startsPlain (flow : Bool) : List Char → Bool
  | [] => false
  | c :: s =>
    if c = '-' then !atGap s
    else if c = '?' || c = ':' then !flow && !atGap s
    else !isGap c && !isFlowSign c && !isSign c

/-- The characters up to the next blank or sign. -/
def plainRun (flow : Bool) : List Char → List Char
  | [] => []
  | c :: s =>
    if isGap c || (c = ':' && endsKey flow s) || (flow && (c = '?' || isFlowSign c)) then []
    else c :: plainRun flow s

/-- Blanks and line ends behind a run: what they leave of themselves, if the scalar may go on, and
whether a line ended. -/
structure PlainGap where
  text : List Char
  cursor : Cursor
  broken : Bool

def PlainGap.read (c : Cursor) : PlainGap :=
  let spaces := c.rest.takeWhile (· = ' ')
  let behind := c.skip spaces.length
  match behind.rest with
  | [] => ⟨spaces, behind, false⟩
  | ch :: s =>
    if isBreak ch then
      let lines := Lines.read (· = ' ') true s
      let text := if lines.marked then [] else folded (plainBreak ch) lines.breaks
      ⟨text, behind.moveTo lines.rest, true⟩
    else ⟨spaces, behind, false⟩

/-- A plain scalar that was read, and whether the last thing behind it was a line end. -/
structure PlainText where
  text : List Char
  cursor : Cursor
  broken : Bool

/-- The runs from here on, with `pieces` those before, last first.  Lines have to stand at column
`least` or deeper unless in brackets.  Each round takes a character, so `rounds` may be the length
of the text. -/
def plainRuns (flow : Bool) (least : Nat) (rounds : Nat) (pieces : List (List Char))
    (gap : PlainGap) : PlainText :=
  let done : PlainText := ⟨pieces.reverse.flatten, gap.cursor, gap.broken⟩
  match rounds with
  | 0 => done
  | rounds + 1 =>
    let run := plainRun flow gap.cursor.rest
    if gap.cursor.rest.head? = some '#' || run.isEmpty then done
    else
      let next := PlainGap.read (gap.cursor.skip run.length)
      let pieces := run :: gap.text :: pieces
      if next.text.isEmpty || next.cursor.rest.head? = some '#'
          || (!flow && next.cursor.column < least) then
        ⟨pieces.reverse.flatten, next.cursor, next.broken⟩
      else plainRuns flow least rounds pieces next

/-- Reads a plain scalar. -/
def PlainText.read (flow : Bool) (least : Nat) (c : Cursor) : PlainText :=
  plainRuns flow least (c.rest.length + 1) [] ⟨[], c, false⟩

def PlainText.scalar (p : PlainText) : Scalar := ⟨p.text, true⟩

end ClientScribe.Yaml
