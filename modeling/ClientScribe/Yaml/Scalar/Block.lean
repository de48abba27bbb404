import ClientScribe.Yaml.Cursor
import ClientScribe.Yaml.Token

/-!
Block scalars: the lines below a header that stand at one column or deeper, which the header or the
first line sets.  The header tells whether lines are folded and what is kept of the line ends at the
end.
-/

namespace ClientScribe.Yaml

/-- What is kept of the line ends at the end. -/
inductive Chomping where
  | strip
  | clip
  | keep
deriving DecidableEq, Repr

structure BlockHeader where
  chomping : Chomping
  /-- How much deeper than the lines around it the block stands, if the header says so. -/
  depth : Option Nat
deriving DecidableEq, Repr

def chomping? : List Char → Option (Chomping × List Char)
  | '+' :: s => some (.keep, s)
  | '-' :: s => some (.strip, s)
  | _ => none

/-- A digit but zero. -/
def depth? : List Char → Except Fault (Option Nat × List Char)
  | [] => .ok (none, [])
  | c :: s =>
    if c = '0' then .error .malformed
    else if c.isDigit then .ok (some (c.toNat - 48), s)
    else .ok (none, c :: s)

/-- The signs of a header, in either order. -/
def BlockHeader.signs (s : List Char) : Except Fault (BlockHeader × List Char) :=
  match chomping? s with
  | some (chomping, s) => (depth? s).map fun (depth, s) => (⟨chomping, depth⟩, s)
  | none =>
    (depth? s).map fun (depth, s) =>
      match depth, chomping? s with
      | some n, some (chomping, s) => (⟨chomping, some n⟩, s)
      | depth, _ => (⟨.clip, depth⟩, s)

/-- Reads a header up to the end of its line. -/
def BlockHeader.read (s : List Char) : Except Fault (BlockHeader × List Char) :=
  match signs s with
  | .error fault => .error fault
  | .ok (header, s) =>
    if atSpace s then (lineEnd s).map fun s => (header, s)
    else .error .malformed

/-- Empty lines at the start of a block: their line ends, and the deepest column that their spaces
and those of the first line reach.  `rounds` may be the length of the text. -/
def leadingLines (rounds : Nat) (deepest : Nat) (c : Cursor) : List Char × Nat × Cursor :=
  match rounds, c.rest with
  | rounds + 1, ch :: _ =>
    if ch = ' ' then leadingLines rounds (max deepest c.next.column) c.next
    else if isBreak ch then
      let (breaks, deepest, c) := leadingLines rounds deepest c.next
      (plainBreak ch :: breaks, deepest, c)
    else ([], deepest, c)
  | _, _ => ([], deepest, c)

/-- Line ends, and the spaces up to column `column` behind each. -/
def emptyLines (rounds : Nat) (column : Nat) (c : Cursor) : List Char × Cursor :=
  match rounds, c.rest with
  | rounds + 1, ch :: _ =>
    if ch = ' ' && c.column < column then emptyLines rounds column c.next
    else if isBreak ch then
      let (breaks, c) := emptyLines rounds column c.next
      (plainBreak ch :: breaks, c)
    else ([], c)
  | _, _ => ([], c)

/-- The lines of a block as read so far: the pieces of the text, last first, the last line end, and
the line ends of the empty lines behind it. -/
structure BlockText where
  pieces : List (List Char)
  last : List Char
  breaks : List Char
  cursor : Cursor

/-- What stands between two lines: in a folded block a single line end between lines that do not
begin with a blank is a space, or nothing in front of empty lines. -/
def betweenLines (fold : Bool) (last breaks first next : List Char) : List Char :=
  if fold && last = ['\n'] && !first.head?.any isPad && !next.head?.any isPad then
    if breaks.isEmpty then [' '] else []
  else last

/-- The lines from here on.  Each round takes a line, so `rounds` may be the length of the text. -/
def blockLines (fold : Bool) (column : Nat) (rounds : Nat) (b : BlockText) : BlockText :=
  match rounds with
  | 0 => b
  | rounds + 1 =>
    if b.cursor.column = column && !b.cursor.rest.isEmpty then
      let line := b.cursor.rest.takeWhile fun c => !isBreak c
      let behind := b.cursor.skip line.length
      let last := (behind.rest.take 1).map plainBreak
      let start := behind.next
      let (breaks, next) := emptyLines (start.rest.length + 1) column start
      let pieces := line :: b.breaks :: b.pieces
      if next.column = column && !next.rest.isEmpty then
        blockLines fold column rounds
          ⟨betweenLines fold last breaks b.cursor.rest next.rest :: pieces, last, breaks, next⟩
      else ⟨pieces, last, breaks, next⟩
    else b

/-- The text of a block. -/
def BlockText.text (chomping : Chomping) (b : BlockText) : List Char :=
  let body := b.pieces.reverse.flatten
  match chomping with
  | .strip => body
  | .clip => body ++ b.last
  | .keep => body ++ b.last ++ b.breaks

/-- Reads a block scalar behind its sign.  It stands at column `least` at least. -/
def Scalar.block (fold : Bool) (least : Nat) (c : Cursor) : Except Fault (Scalar × Cursor) :=
  (BlockHeader.read c.rest).map fun (header, rest) =>
    let start := c.moveTo rest
    let rounds := rest.length + 1
    let (column, breaks, first) :=
      match header.depth with
      | some n =>
        let column := least + n - 1
        let (breaks, first) := emptyLines rounds column start
        (column, breaks, first)
      | none =>
        let (breaks, deepest, first) := leadingLines rounds 0 start
        (max least deepest, breaks, first)
    let b := blockLines fold column rounds ⟨[], [], breaks, first⟩
    (ofText (b.text header.chomping), b.cursor)

end ClientScribe.Yaml
