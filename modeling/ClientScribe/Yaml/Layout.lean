import ClientScribe.Yaml.Scalar.Block
import ClientScribe.Yaml.Scalar.Plain
import ClientScribe.Yaml.Scalar.Quoted
import ClientScribe.Yaml.Token

/-!
The layout of a text: its cut into tokens.  Blocks open and close with the indentation, and a key is
known only once its colon is seen: then the token that announces it goes in front of what was read
since the key began, and with it the start of a block that the key opens.
-/

namespace ClientScribe.Yaml

/-- A place where a key may have begun. -/
structure Candidate where
  /-- How many tokens stand before it. -/
  count : Nat
  /-- Whether the block allows nothing but a key there. -/
  required : Bool
  index : Nat
  line : Nat
  column : Nat
deriving Repr

/-- A key is written in one line, and no more than so many characters in front of its colon. -/
def Candidate.reach : Nat := 1024

def Candidate.isStale (k : Candidate) (c : Cursor) : Bool :=
  k.line != c.line || Candidate.reach < c.index - k.index

/-- How far a text has been cut. -/
structure Layout where
  cursor : Cursor
  /-- The tokens so far, last first. -/
  tokens : List Token
  /-- The columns of the open blocks, innermost first. -/
  blocks : List Nat
  /-- Whether a key may begin here. -/
  mayKey : Bool
  /-- The candidate of the innermost brackets, or of the blocks outside all brackets. -/
  candidate : Option Candidate
  /-- The candidates around each open bracket, innermost first. -/
  outer : List (Option Candidate)

namespace Layout

variable (l : Layout)

def ofText (text : List Char) : Layout := ⟨Cursor.ofText text, [], [], true, none, []⟩

/-- Whether the place is inside brackets. -/
def inFlow : Bool := !l.outer.isEmpty

/-- The column behind which a scalar in the innermost block has to stand. -/
def least : Nat :=
  match l.blocks with
  | [] => 0
  | column :: _ => column + 1

def push (t : Token) : Layout := { l with tokens := t :: l.tokens }

def moveTo (rest : List Char) : Layout := { l with cursor := l.cursor.moveTo rest }

def next : Layout := { l with cursor := l.cursor.next }

/-- A token of one character. -/
def sign (t : Token) : Layout := l.next.push t

/-- How many characters of blanks, comments and line ends come next, and whether a line ends. -/
def gap (comment : Bool) : List Char → Nat × Bool
  | [] => (0, false)
  | c :: s =>
    if isBreak c then ((gap false s).1 + 1, true)
    else if comment || c = ' ' || c = '#' then
      let (n, broken) := gap (comment || c = '#') s
      (n + 1, broken)
    else (0, false)

/-- Passes a byte order mark at the start. -/
def skipMark : Layout :=
  if l.cursor.index = 0 && l.cursor.rest.head? = some '\uFEFF' then l.next else l

/-- Passes what stands between tokens.  A key may begin in a new line outside brackets. -/
def skipGap : Layout :=
  let l := l.skipMark
  let (n, broken) := gap false l.cursor.rest
  { l with cursor := l.cursor.skip n, mayKey := l.mayKey || (broken && !l.inFlow) }

/-- A candidate that turned out to be none; where nothing but a key is allowed that is a fault. -/
def reject : Option Candidate → Except Fault Unit
  | some k => if k.required then .error .malformed else .ok ()
  | none => .ok ()

/-- Gives up the candidate. -/
def forget : Except Fault Layout :=
  (reject l.candidate).map fun _ => { l with candidate := none }

/-- Gives up a candidate whose colon can no longer come. -/
def freshen (c : Cursor) (candidate : Option Candidate) : Except Fault (Option Candidate) :=
  if candidate.any fun k => k.isStale c then (reject candidate).map fun _ => none
  else .ok candidate

def dropStale : Except Fault Layout := do
  let candidate ← freshen l.cursor l.candidate
  let outer ← l.outer.mapM (freshen l.cursor)
  return { l with candidate, outer }

/-- Notes that a key may begin here. -/
def offer : Except Fault Layout :=
  if l.mayKey then
    (reject l.candidate).map fun _ =>
      let c := l.cursor
      let required := !l.inFlow && l.blocks.head? = some c.column
      { l with candidate := some ⟨l.tokens.length, required, c.index, c.line, c.column⟩ }
  else .ok l

/-- Closes the blocks in front while they meet `deeper`; brackets keep them open. -/
def closeBlocks (deeper : Nat → Bool) : Layout :=
  if l.inFlow then l
  else
    { l with
      blocks := l.blocks.dropWhile deeper
      tokens := (l.blocks.takeWhile deeper).map (fun _ => .blockEnd) ++ l.tokens }

/-- Whether a block at this column is a new one. -/
def isDeeper (column : Nat) : Bool := l.least ≤ column

/-- Opens a block at this column unless it is open. -/
def openBlock (start : Token) (column : Nat) : Layout :=
  if l.isDeeper column then { l.push start with blocks := column :: l.blocks } else l

/-- Puts tokens, first to last, behind the first `count`. -/
def insert (count : Nat) (new : List Token) : Layout :=
  let since := l.tokens.length - count
  { l with tokens := l.tokens.take since ++ new.reverse ++ l.tokens.drop since }

/-- Announces the key that began at a candidate. -/
def announce (k : Candidate) : Layout :=
  if !l.inFlow && l.isDeeper k.column then
    { l.insert k.count [.blockMapping, .key] with blocks := k.column :: l.blocks }
  else l.insert k.count [.key]

/-- A bracket opens. -/
def openFlow (start : Token) : Except Fault Layout :=
  l.offer.map fun l =>
    { l.sign start with outer := l.candidate :: l.outer, candidate := none, mayKey := true }

/-- A bracket closes. -/
def closeFlow (finish : Token) : Except Fault Layout :=
  l.forget.bind fun l =>
    match l.outer with
    | [] => .error .malformed
    | candidate :: outer =>
      .ok { l.sign finish with candidate := candidate, outer := outer, mayKey := false }

/-- A comma between items in brackets. -/
def comma : Except Fault Layout :=
  l.forget.map fun l => { l.sign .comma with mayKey := true }

/-- A hyphen in front of an item. -/
def entry : Except Fault Layout :=
  if l.inFlow || !l.mayKey then .error .malformed
  else
    (l.openBlock .blockSequence l.cursor.column).forget.map fun l =>
      { l.sign .entry with mayKey := true }

/-- A question mark in front of a key. -/
def explicitKey : Except Fault Layout :=
  if l.inFlow then l.forget.map fun l => { l.sign .key with mayKey := false }
  else if l.mayKey then
    (l.openBlock .blockMapping l.cursor.column).forget.map fun l =>
      { l.sign .key with mayKey := true }
  else .error .malformed

/-- A colon in front of a value: behind a candidate it makes that a key. -/
def colon : Except Fault Layout :=
  match l.candidate with
  | some k =>
    .ok { (({ l with candidate := none } : Layout).announce k).sign .value with mayKey := false }
  | none =>
    if l.inFlow then .ok { l.sign .value with mayKey := false }
    else if l.mayKey then
      .ok { (l.openBlock .blockMapping l.cursor.column).sign .value with mayKey := true }
    else .error .malformed

/-- A part of a node that may be a key, read behind the sign in front of it. -/
def part {α : Type} (read : List Char → Except Fault (α × List Char)) (token : α → Token) :
    Except Fault Layout := do
  let l ← l.offer
  let (a, rest) ← read (l.cursor.rest.drop 1)
  return { (l.moveTo rest).push (token a) with mayKey := false }

def plain : Except Fault Layout :=
  l.offer.map fun l =>
    let p := PlainText.read l.inFlow l.least l.cursor
    { l.push (.scalar p.scalar) with cursor := p.cursor, mayKey := p.broken }

/-- A block scalar stands deeper than the block that it is in, and never at the margin. -/
def block (fold : Bool) : Except Fault Layout := do
  let l ← l.forget
  let (s, cursor) ← Scalar.block fold (max l.least 1) l.cursor.next
  return { l.push (.scalar s) with cursor, mayKey := true }

/-- What stands between documents ends all blocks. -/
def endBlocks : Except Fault Layout :=
  (l.closeBlocks fun _ => true).forget.map fun l => { l with mayKey := false }

def directive : Except Fault Layout := do
  let l ← l.endBlocks
  let (d, rest) ← Directive.read (l.cursor.rest.drop 1)
  return (l.moveTo rest).push (.directive d)

def marker (t : Token) : Except Fault Layout :=
  l.endBlocks.map fun l => (l.moveTo (l.cursor.rest.drop 3)).push t

/-- Reads the token that starts with `c` and goes on with `s`. -/
def token (c : Char) (s : List Char) : Except Fault Layout :=
  let flow := l.inFlow
  let margin := l.cursor.column = 0
  if margin && c = '%' then l.directive
  else if margin && isMarker (c :: s) then
    l.marker (if c = '-' then .documentStart else .documentEnd)
  else if c = '[' then l.openFlow .flowSequence
  else if c = '\x7b' then l.openFlow .flowMapping
  else if c = ']' then l.closeFlow .flowSequenceEnd
  else if c = '\x7d' then l.closeFlow .flowMappingEnd
  else if c = ',' then l.comma
  else if c = '-' && atGap s then l.entry
  else if c = '?' && (flow || atGap s) then l.explicitKey
  else if c = ':' && (flow || atGap s) then l.colon
  else if c = '*' then l.part anchorName .alias
  else if c = '&' then l.part anchorName .anchor
  else if c = '!' then l.part TagName.read .tag
  else if !flow && (c = '|' || c = '>') then l.block (c = '>')
  else if c = '\'' || c = '"' then l.part (Scalar.quoted (c = '"')) .scalar
  else if startsPlain flow (c :: s) then l.plain
  else .error .malformed

/-- Reads the next token, if there is one. -/
def advance : Except Fault (Layout × Bool) := do
  let l ← l.skipGap.dropStale
  let l := l.closeBlocks fun column => l.cursor.column < column
  match l.cursor.rest with
  | [] => return (← l.endBlocks, false)
  | c :: s => return (← l.token c s, true)

/-- How many tokens stand in front of everything that may still turn out to be a key. -/
def settled : Nat :=
  (l.candidate :: l.outer).foldl (fun n candidate =>
    match candidate with
    | some k => if k.isStale l.cursor then n else min n k.count
    | none => n) l.tokens.length

/-- The tokens up to the end, or up to a fault: then those that are settled before it.  Each round
takes a character, so `rounds` may be the length of the text. -/
def finish (rounds : Nat) (l : Layout) : List Token :=
  let upTo (fault : Fault) := l.tokens.reverse.take l.settled ++ [.broken fault]
  match rounds with
  | 0 => upTo .malformed
  | rounds + 1 =>
    match l.advance with
    | .error fault => upTo fault
    | .ok (l, true) => finish rounds l
    | .ok (l, false) => l.tokens.reverse

end Layout

/-- The tokens of a text. -/
def tokens (text : List Char) : List Token :=
  Layout.finish (text.length + 1) (Layout.ofText text)

end ClientScribe.Yaml
