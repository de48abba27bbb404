import ClientScribe.Text.Blank
import ClientScribe.Text.Search

/-!
Whole numbers as a reader of tables writes them: blanks around, a sign in front, decimal digits of
any script, and single underscores between digits.  Unicode keeps the ten digits of a script side by
side, so the code point of its zero tells them all; the zeros are those of Unicode 14.
-/

namespace ClientScribe.Text

/-- The zeros, ascending. -/
def zeros : List Nat :=
  [0x30, 0x660, 0x6F0, 0x7C0, 0x966, 0x9E6, 0xA66, 0xAE6, 0xB66, 0xBE6, 0xC66, 0xCE6, 0xD66, 0xDE6,
   0xE50, 0xED0, 0xF20, 0x1040, 0x1090, 0x17E0, 0x1810, 0x1946, 0x19D0, 0x1A80, 0x1A90, 0x1B50,
   0x1BB0, 0x1C40, 0x1C50, 0xA620, 0xA8D0, 0xA900, 0xA9D0, 0xA9F0, 0xAA50, 0xABF0, 0xFF10, 0x104A0,
   0x10D30, 0x11066, 0x110F0, 0x11136, 0x111D0, 0x112F0, 0x11450, 0x114D0, 0x11650, 0x116C0,
   0x11730, 0x118E0, 0x11950, 0x11C50, 0x11D50, 0x11DA0, 0x16A60, 0x16AC0, 0x16B50, 0x1D7CE,
   0x1D7D8, 0x1D7E2, 0x1D7EC, 0x1D7F6, 0x1E140, 0x1E2F0, 0x1E950, 0x1FBF0]

/-- The value of a decimal digit of any script. -/
def digitValue? (c : Char) : Option Nat :=
  (zeros.find? fun z => z ≤ c.toNat && c.toNat < z + 10).map fun z => c.toNat - z

/-- The blanks that may surround a number: the separators U+001C to U+001F may not. -/
def isNumberBlank (c : Char) : Bool :=
  c = ' ' || (9 ≤ c.toNat && c.toNat ≤ 13) || (127 ≤ c.toNat && isBlank c)

/-- A number of more digits is not read. -/
def maxDigits : Nat := 4300

/-- What is said of a number of too many digits. -/
def excessDigits (count : Nat) : String :=
  s!"Exceeds the limit ({maxDigits} digits) for integer string conversion: value has {count} digits"
    ++ "; use sys.set_int_max_str_digits() to increase the limit"

/-- The value of decimal digits, most significant first. -/
def digitsValue (ds : List Nat) : Nat := ds.foldl (fun n d => 10 * n + d) 0

/-- The digits of a number; underscores may stand between two of them. -/
def digits? (s : List Char) : Option (List Nat) :=
  let groups := splitOn '_' s
  if groups.any List.isEmpty then none else groups.flatten.mapM digitValue?

def natural? (s : List Char) : Option Nat :=
  (digits? s).bind fun ds => if ds.length ≤ maxDigits then some (digitsValue ds) else none

def unsignedOrSigned? : List Char → Option Int
  | '-' :: s => (natural? s).map fun n => -(n : Int)
  | '+' :: s => (natural? s).map Int.ofNat
  | s => (natural? s).map Int.ofNat

/-- Reads a whole number. -/
def integer? (s : List Char) : Option Int :=
  unsignedOrSigned? ((s.dropWhile isNumberBlank).reverse.dropWhile isNumberBlank).reverse

example : integer? [' ', '-', '1', '_', '٣', '\t'] = some (-13) := by decide

example : integer? ['1', '_'] = none := by decide

end ClientScribe.Text
