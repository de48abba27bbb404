/-!
Surrogates: the two code units that stand for a character beyond U+FFFF.  Some notations can write
half of such a pair by itself.  A half is no character, so a text holds a private character in its
place, the one among U+FD800 to U+FDFFF that has the same last four hexadecimal digits.  These 2048
characters cannot stand for themselves: a text that holds one is taken for a text with a half.
-/

namespace ClientScribe.Text

def isHighSurrogate (n : Nat) : Bool := 0xD800 ≤ n && n < 0xDC00

def isLowSurrogate (n : Nat) : Bool := 0xDC00 ≤ n && n < 0xE000

/-- The character that a surrogate pair stands for. -/
def joinSurrogates (high low : Nat) : Char :=
  Char.ofNat (0x10000 + (high - 0xD800) * 0x400 + (low - 0xDC00))

/-- How far the characters that stand for halves lie behind the halves. -/
def halfOffset : Nat := 0xF0000

/-- The character of a code; half a pair has one that stands for it. -/
def ofCode (n : Nat) : Char :=
  if isHighSurrogate n || isLowSurrogate n then Char.ofNat (n + halfOffset) else Char.ofNat n

/-- The code of a character that stands for half a pair. -/
def half? (c : Char) : Option Nat :=
  if 0xFD800 ≤ c.toNat && c.toNat < 0xFE000 then some (c.toNat - halfOffset) else none

def isHalf (c : Char) : Bool := (half? c).isSome

/-- Whether a text can be stored: halves of pairs have no bytes.  The private characters that stand
for them are left out with them. -/
def isStorable (s : String) : Bool := !s.toList.any isHalf

/-- Whether a character can stand in the name of a file.  There some halves stand for single bytes,
those from 0x80 on. -/
def isNameable (c : Char) : Bool := (half? c).all fun n => 0xDC80 ≤ n && n ≤ 0xDCFF

example : half? (ofCode 0xD83D) = some 0xD83D := by decide

example : half? 'é' = none := by decide

end ClientScribe.Text
