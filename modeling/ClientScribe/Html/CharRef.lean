import ClientScribe.Html.Names
import ClientScribe.Text.Hex
import ClientScribe.Text.Integer

/-!
Character references in attribute values: by number, as in `&#34;` and `&#x22;`, and by name, as in
`&quot;`.  What is no reference stays as it is.
-/

namespace ClientScribe.Html

open Text (run?)

/-- The characters that the numbers 0x80 to 0x9F stand for. -/
def legacyCodes : List Nat :=
  [0x20AC, 0x81, 0x201A, 0x192, 0x201E, 0x2026, 0x2020, 0x2021, 0x2C6, 0x2030, 0x160, 0x2039, 0x152,
   0x8D, 0x17D, 0x8F, 0x90, 0x2018, 0x2019, 0x201C, 0x201D, 0x2022, 0x2013, 0x2014, 0x2DC, 0x2122,
   0x161, 0x203A, 0x153, 0x9D, 0x17E, 0x178]

/-- Controls but for tab, line feed and form feed, and the code points that are no characters. -/
def isForbidden (n : Nat) : Bool :=
  (1 ≤ n && n ≤ 8) || n = 0x0B || (0x0E ≤ n && n ≤ 0x1F) || (0x7F ≤ n && n ≤ 0x9F)
    || (0xFDD0 ≤ n && n ≤ 0xFDEF) || 0xFFFE ≤ n % 0x10000

/-- What a number stands for. -/
def numbered (n : Nat) : List Char :=
  if n = 0x0D then ['\r']
  else if 0x80 ≤ n && n ≤ 0x9F then [Char.ofNat (legacyCodes.getD (n - 0x80) 0xFFFD)]
  else if n = 0 || (0xD800 ≤ n && n ≤ 0xDFFF) || 0x10FFFF < n then ['\uFFFD']
  else if isForbidden n then []
  else [Char.ofNat n]

/-- The text without a semicolon at its start. -/
def skipSemicolon : List Char → List Char
  | ';' :: s => s
  | s => s

def decimalRef? (s : List Char) : Option (List Char × List Char) :=
  (run? Char.isDigit s).map fun (ds, rest) =>
    (numbered (Text.digitsValue (ds.map fun c => c.toNat - 48)), skipSemicolon rest)

def hexRef? (s : List Char) : Option (List Char × List Char) :=
  (run? Text.isHex s).map fun (ds, rest) =>
    (numbered (Text.hexNumber ds), skipSemicolon rest)

/-- The reference by number behind `&#`. -/
def numberRef? : List Char → Option (List Char × List Char)
  | 'x' :: s => hexRef? s
  | 'X' :: s => hexRef? s
  | s => decimalRef? s

/-- Whether a character may be part of a name. -/
def isNameChar (c : Char) : Bool :=
  !(c = '\t' || c = '\n' || c = '\x0c' || c = ' ' || c = '<' || c = '&' || c = '#' || c = ';')

/-- The characters of a name that needs no semicolon. -/
def bareName? (name : List Char) : Option (List Char) :=
  if bareNames.contains (String.ofList name) then
    (namedCodes? (String.ofList name)).map fun codes => codes.map Char.ofNat
  else none

/-- The longest start of `name`, of two to `length` characters, that needs no semicolon; the rest of
the name follows it. -/
def longestBare? (name : List Char) : (length : Nat) → Option (List Char)
  | 0 | 1 => none
  | length + 2 =>
    match bareName? (name.take (length + 2)) with
    | some cs => some (cs ++ name.drop (length + 2))
    | none => longestBare? name (length + 1)

/-- What a name and its semicolon, if there is one, stand for. -/
def named (name : List Char) (semicolon : Bool) : List Char :=
  if semicolon then
    match namedCodes? (String.ofList name) with
    | some codes => codes.map Char.ofNat
    | none =>
      match longestBare? name name.length with
      | some cs => cs ++ [';']
      | none => '&' :: name ++ [';']
  else (bareName? name).getD ((longestBare? name (name.length - 1)).getD ('&' :: name))

/-- The reference by name behind `&`; a name has at most 32 characters. -/
def nameRef? (s : List Char) : Option (List Char × List Char) :=
  match (s.takeWhile isNameChar).take 32 with
  | [] => none
  | name =>
    match s.drop name.length with
    | ';' :: rest => some (named name true, rest)
    | rest => some (named name false, rest)

/-- The reference at the start of the text, as what it stands for. -/
def charRef? : List Char → Option (List Char × List Char)
  | '&' :: '#' :: s => numberRef? s
  | '&' :: s => nameRef? s
  | _ => none

/-- The digits of the first decimal reference that has too many. -/
def longRef? (s : List Char) : Option Nat :=
  Text.search (fun s => do
    let (ds, _) ← run? Char.isDigit (← Text.strip? ['&', '#'] s)
    if Text.maxDigits < ds.length then some ds.length else none) s

/-- The text with all references replaced. -/
def unescape (s : List Char) : List Char := Text.replaceAll charRef? id s

example :
    unescape ['&', 'q', 'u', 'o', 't', ';', 'a', '&', '#', '3', '4', ';'] = ['"', 'a', '"'] := by
  decide +kernel

end ClientScribe.Html
