import ClientScribe.Yaml.Fault

/-!
A place in a text, and the characters that part its words and lines.  Line ends are single
characters here; the line and the column of a place decide about blocks and keys.
-/

namespace ClientScribe.Yaml

/-- Line ends. -/
def isBreak (c : Char) : Bool := c = '\n' || c = '\x85' || c = '\u2028' || c = '\u2029'

/-- The blanks inside a line. -/
def isPad (c : Char) : Bool := c = ' ' || c = '\t'

def isGap (c : Char) : Bool := isPad c || isBreak c

/-- Whether a word ends here. -/
def atGap : List Char → Bool
  | [] => true
  | c :: _ => isGap c

/-- Whether a line ends here. -/
def atBreak : List Char → Bool
  | [] => true
  | c :: _ => isBreak c

/-- Whether a space, a line end or the end of the text comes next; a tab does not count. -/
def atSpace (s : List Char) : Bool := atBreak s || s.head? = some ' '

/-- The characters of names. -/
def isNameChar (c : Char) : Bool := c.isAlphanum || c = '-' || c = '_'

/-- Whether a line that starts here marks the start or the end of a document. -/
def isMarker : List Char → Bool
  | '-' :: '-' :: '-' :: s => atGap s
  | '.' :: '.' :: '.' :: s => atGap s
  | _ => false

/-- What is left of a text, and how far the place is from the start. -/
structure Cursor where
  rest : List Char
  index : Nat
  line : Nat
  column : Nat
deriving Repr

namespace Cursor

def ofText (text : List Char) : Cursor := ⟨text, 0, 0, 0⟩

/-- Passes one character.  A byte order mark takes no column. -/
def next (c : Cursor) : Cursor :=
  match c.rest with
  | [] => c
  | ch :: rest =>
    if isBreak ch then ⟨rest, c.index + 1, c.line + 1, 0⟩
    else ⟨rest, c.index + 1, c.line, if ch = '\uFEFF' then c.column else c.column + 1⟩

def skip (c : Cursor) : Nat → Cursor
  | 0 => c
  | n + 1 => c.next.skip n

/-- Passes everything in front of `rest`, which is an end of the text. -/
def moveTo (c : Cursor) (rest : List Char) : Cursor := c.skip (c.rest.length - rest.length)

theorem rest_next (c : Cursor) : c.next.rest = c.rest.tail := by
  unfold next
  split
  next h => simp [h]
  next h => split <;> simp [h]

theorem rest_skip (c : Cursor) (n : Nat) : (c.skip n).rest = c.rest.drop n := by
  induction n generalizing c with
  | zero => rfl
  | succ n ih => rw [skip, ih, rest_next, ← List.drop_one, List.drop_drop, Nat.add_comm]

/-- Moving to an end of the text arrives there. -/
theorem rest_moveTo {c : Cursor} {rest : List Char} (h : rest <:+ c.rest) :
    (c.moveTo rest).rest = rest := by
  obtain ⟨passed, hp⟩ := h
  rw [moveTo, rest_skip, ← hp, List.length_append, Nat.add_sub_cancel, List.drop_left]

end Cursor

/-- Line ends and what stands between them. -/
structure Lines where
  breaks : List Char
  rest : List Char
  /-- Whether they end in front of a document marker. -/
  marked : Bool

/-- The line end that a line end stands for: the old ones are the same as a line feed. -/
def plainBreak (c : Char) : Char := if c = '\x85' then '\n' else c

/-- The line ends from here on, passing the blanks `pad` in front of them and behind the last. -/
def Lines.read (pad : Char → Bool) (lineStart : Bool) : List Char → Lines
  | [] => ⟨[], [], false⟩
  | c :: s =>
    if lineStart && isMarker (c :: s) then ⟨[], c :: s, true⟩
    else if isBreak c then
      let more := Lines.read pad true s
      { more with breaks := plainBreak c :: more.breaks }
    else if pad c then Lines.read pad false s
    else ⟨[], c :: s, false⟩

/-- The text without a line end behind it. -/
def dropLineEnd (s : List Char) : List Char :=
  if s.getLast? = some '\n' then s.dropLast else s

/-- What a line end and the line ends behind it leave in running text: a single line feed becomes a
space, and is dropped in front of others. -/
def folded (first : Char) (more : List Char) : List Char :=
  if first ≠ '\n' then first :: more else if more.isEmpty then [' '] else more

/-- The text behind the rest of a line that holds no more than spaces and a comment. -/
def lineEnd (s : List Char) : Except Fault (List Char) :=
  let s := s.dropWhile (· = ' ')
  let s := if s.head? = some '#' then s.dropWhile fun c => !isBreak c else s
  if atBreak s then .ok (s.drop 1) else .error .malformed

end ClientScribe.Yaml
