import ClientScribe.Decimal.Shortest
import ClientScribe.Interpreter
import ClientScribe.Json.Basic
import ClientScribe.Text.Hex
import ClientScribe.Text.Integer
import ClientScribe.Text.Surrogate

/-!
Reading JSON text.  The reader accepts the standard grammar and the three names `NaN`, `Infinity`
and `-Infinity`; of members with one key the last value counts, at the place of the first.  A fault
of the text carries what is left of it where the fault was noticed, so its index, line and column
follow from the whole text.  Numbers that are too long and values that are nested too deep are no
faults of the text, but nothing is read then.
-/

namespace ClientScribe.Json

open Text (hexValue? isHighSurrogate isLowSurrogate joinSurrogates maxDigits ofCode)

inductive Cause where
  | byteOrderMark
  | noValue
  | noName
  | noColon
  | noComma
  | extraData
  | openString
  | controlCharacter
  | badEscape
  | badCodeEscape
deriving DecidableEq, Repr

def Cause.message : Cause → String
  | .byteOrderMark => "Unexpected UTF-8 BOM (decode using utf-8-sig)"
  | .noValue => "Expecting value"
  | .noName => "Expecting property name enclosed in double quotes"
  | .noColon => "Expecting ':' delimiter"
  | .noComma => "Expecting ',' delimiter"
  | .extraData => "Extra data"
  | .openString => "Unterminated string starting at"
  | .controlCharacter => "Invalid control character at"
  | .badEscape => "Invalid \\escape"
  | .badCodeEscape => "Invalid \\uXXXX escape"

/-- What is too large to be read. -/
inductive Excess where
  /-- A whole number of so many digits. -/
  | digits (count : Nat)
  /-- An array or object inside too many others. -/
  | arrayNesting
  | objectNesting
deriving DecidableEq, Repr

def Excess.message : Excess → String
  | .digits count => Text.excessDigits count
  | .arrayNesting =>
    "maximum recursion depth exceeded while decoding a JSON array from a unicode string"
  | .objectNesting =>
    "maximum recursion depth exceeded while decoding a JSON object from a unicode string"

/-- Why a text cannot be read. -/
inductive Fault where
  /-- It is no JSON text; `rest` is what is left of it from the fault on. -/
  | text (cause : Cause) (rest : List Char)
  | excess (e : Excess)

/-- What reading a part of the text gives: a value and the text behind it. -/
abbrev Step (α : Type) := Except Fault (α × List Char)

def fail {α : Type} (cause : Cause) (rest : List Char) : Step α := .error (.text cause rest)

def isGap (c : Char) : Bool := c = ' ' || c = '\t' || c = '\n' || c = '\r'

def skipGap (s : List Char) : List Char := s.dropWhile isGap

/-! ### Strings -/

/-- The number written by four hexadecimal digits. -/
def codeUnit? (a b c d : Char) : Option Nat := do
  return (← hexValue? a) * 4096 + (← hexValue? b) * 256 + (← hexValue? c) * 16 + (← hexValue? d)

/-- The character that a backslash and a letter stand for. -/
def unescape? : Char → Option Char
  | '"' => some '"'
  | '\\' => some '\\'
  | '/' => some '/'
  | 'b' => some '\x08'
  | 'f' => some '\x0c'
  | 'n' => some '\n'
  | 'r' => some '\r'
  | 't' => some '\t'
  | _ => none

/-- The characters read so far, last first, once a high surrogate waits no longer; it is refused
where the reader is strict. -/
def settle? (strict : Bool) (high : Option Nat) (done : List Char) : Option (List Char) :=
  match high with
  | none => some done
  | some h => if strict then none else some (ofCode h :: done)

/-- Takes in one code unit: it completes a pair, starts one, or stands for itself. -/
def takeUnit? (strict : Bool) (high : Option Nat) (done : List Char) (unit : Nat) :
    Option (Option Nat × List Char) :=
  if isLowSurrogate unit then
    match high with
    | some h => some (none, joinSurrogates h unit :: done)
    | none => if strict then none else some (none, ofCode unit :: done)
  else (settle? strict high done).map fun done =>
    if isHighSurrogate unit then (some unit, done) else (none, Char.ofNat unit :: done)

/-- Reads the rest of a string.  `opened` is the text from its opening quote on, `high` a high
surrogate that waits for its partner and `done` what was read, last character first. -/
def stringRest (strict : Bool) (opened : List Char) (high : Option Nat) (done : List Char) :
    List Char → Step (List Char)
  | [] => fail .openString opened
  | ['\\'] => fail .openString opened
  | '\\' :: 'u' :: a :: b :: c :: d :: e :: s =>
    match (codeUnit? a b c d).bind (takeUnit? strict high done) with
    | some (high, done) => stringRest strict opened high done (e :: s)
    | none => fail .badCodeEscape ('u' :: a :: b :: c :: d :: e :: s)
  | '\\' :: e :: s =>
    if e = 'u' then fail .badCodeEscape (e :: s)
    else
      match unescape? e, settle? strict high done with
      | some c, some done => stringRest strict opened none (c :: done) s
      | some _, none => fail .badCodeEscape ('\\' :: e :: s)
      | none, _ => fail .badEscape ('\\' :: e :: s)
  | c :: s =>
    if c = '"' then
      match settle? strict high done with
      | some done => .ok (done.reverse, s)
      | none => fail .badCodeEscape (c :: s)
    else if c.toNat < 0x20 then fail .controlCharacter (c :: s)
    else
      match settle? strict high done with
      | some done => stringRest strict opened none (c :: done) s
      | none => fail .badCodeEscape (c :: s)

/-- Reads a string behind its opening quote. -/
def string (strict : Bool) (s : List Char) : Step String :=
  (stringRest strict ('"' :: s) none [] s).map fun (cs, rest) => (String.ofList cs, rest)

/-! ### Numbers -/

/-- The value of ASCII digits. -/
def numeral (ds : List Char) : Nat := Text.digitsValue (ds.map fun c => c.toNat - 48)

/-- The digits in front of the point: a zero, or digits that do not start with one. -/
def whole? : List Char → Option (List Char × List Char)
  | [] => none
  | c :: s =>
    if c = '0' then some ([c], s)
    else if c.isDigit then some (c :: s.takeWhile Char.isDigit, s.dropWhile Char.isDigit)
    else none

/-- The digits behind a point, if the text goes on with a point and a digit. -/
def fraction : List Char → List Char × List Char
  | '.' :: c :: s =>
    if c.isDigit then (c :: s.takeWhile Char.isDigit, s.dropWhile Char.isDigit)
    else ([], '.' :: c :: s)
  | s => ([], s)

/-- The digits of an exponent behind its sign. -/
def exponentDigits? (sign : Int) (s : List Char) : Option (Int × List Char) :=
  match s.takeWhile Char.isDigit with
  | [] => none
  | ds => some (sign * numeral ds, s.dropWhile Char.isDigit)

/-- The exponent, if the text goes on with a complete one. -/
def exponent? : List Char → Option (Int × List Char)
  | [] => none
  | c :: s =>
    if c = 'e' || c = 'E' then
      match s with
      | '-' :: s => exponentDigits? (-1) s
      | '+' :: s => exponentDigits? 1 s
      | s => exponentDigits? 1 s
    else none

/-- A number without its sign, of which `ds` are the digits in front of the point. -/
def numberBehind (negative : Bool) (ds s : List Char) : Json × List Char :=
  let (fs, s) := fraction s
  let signed (x : Float) : Json := .float (if negative then -x else x)
  match exponent? s with
  | some (e, s) => (signed (Decimal.nearest (numeral (ds ++ fs)) (e - fs.length)), s)
  | none =>
    if fs.isEmpty then (.int (if negative then -(numeral ds : Int) else numeral ds), s)
    else (signed (Decimal.nearest (numeral (ds ++ fs)) (-fs.length)), s)

/-- A point or an exponent makes a floating-point number. -/
def isWhole : Json → Bool
  | .int _ => true
  | _ => false

/-- A number without its sign, if the text goes on with one.  A whole number may have so many digits
and no more; where the reader is strict, the digits in front of any point are counted, together with
the sign. -/
def unsigned? (strict negative : Bool) (s : List Char) : Option (Step Json) :=
  (whole? s).map fun (ds, s) =>
    let (v, rest) := numberBehind negative ds s
    if strict && maxDigits < ds.length + negative.toNat then fail .noValue s
    else if isWhole v && maxDigits < ds.length then .error (.excess (.digits ds.length))
    else .ok (v, rest)

def number? (strict : Bool) : List Char → Option (Step Json)
  | '-' :: s => unsigned? strict true s
  | s => unsigned? strict false s

/-! ### Values -/

/-- What a name stands for. -/
def name? : List Char → Option (Json × List Char)
  | 'n' :: 'u' :: 'l' :: 'l' :: s => some (.null, s)
  | 't' :: 'r' :: 'u' :: 'e' :: s => some (.bool true, s)
  | 'f' :: 'a' :: 'l' :: 's' :: 'e' :: s => some (.bool false, s)
  | 'N' :: 'a' :: 'N' :: s => some (.float (0 / 0), s)
  | 'I' :: 'n' :: 'f' :: 'i' :: 'n' :: 'i' :: 't' :: 'y' :: s => some (.float (1 / 0), s)
  | '-' :: 'I' :: 'n' :: 'f' :: 'i' :: 'n' :: 'i' :: 't' :: 'y' :: s => some (.float (-(1 / 0)), s)
  | _ => none

/-- A value that holds no other value. -/
def scalar (strict : Bool) : List Char → Step Json
  | '"' :: s => (string strict s).map fun (t, rest) => (.str t, rest)
  | s =>
    match name? s, number? strict s with
    | some r, _ => .ok r
    | none, some r => r
    | none, none => fail .noValue s

/-- The items of an array from its first one on, up to the bracket; `done` holds those read, last
first.  Each round takes at least one character, so `rounds` may be the length of the text. -/
def items (item : List Char → Step Json) (rounds : Nat) (done : List Json) (s : List Char) :
    Step (List Json) :=
  match rounds with
  | 0 => fail .noValue s
  | rounds + 1 =>
    match item s with
    | .error fault => .error fault
    | .ok (v, s) =>
      match skipGap s with
      | ']' :: s => .ok ((v :: done).reverse, s)
      | ',' :: s => items item rounds (v :: done) (skipGap s)
      | s => fail .noComma s

/-- A key, its colon, and the gaps around it. -/
def key (strict : Bool) : List Char → Step String
  | '"' :: s =>
    match string strict s with
    | .error fault => .error fault
    | .ok (k, s) =>
      match skipGap s with
      | ':' :: s => .ok (k, skipGap s)
      | s => fail .noColon s
  | s => fail .noName s

/-- The members of an object from its first one on, up to the brace. -/
def members (strict : Bool) (item : List Char → Step Json) (rounds : Nat) (done : Members)
    (s : List Char) : Step Members :=
  match rounds with
  | 0 => fail .noName s
  | rounds + 1 =>
    match key strict s with
    | .error fault => .error fault
    | .ok (k, s) =>
      match item s with
      | .error fault => .error fault
      | .ok (v, s) =>
        match skipGap s with
        | '}' :: s => .ok (put k v done, s)
        | ',' :: s => members strict item rounds (put k v done) (skipGap s)
        | s => fail .noComma s

/-- An array or object inside as many others as there may be: a strict reader takes it if it is
empty. -/
def innermost (strict : Bool) : List Char → Step Json
  | '[' :: s =>
    match strict, skipGap s with
    | true, ']' :: s => .ok (.arr [], s)
    | _, _ => .error (.excess .arrayNesting)
  | '{' :: s =>
    match strict, skipGap s with
    | true, '}' :: s => .ok (.obj [], s)
    | _, _ => .error (.excess .objectNesting)
  | s => scalar strict s

/-- A value and the text behind it, with no more than `depth` arrays and objects inside each
other. -/
def value (strict : Bool) : (depth : Nat) → List Char → Step Json
  | 0, s => innermost strict s
  | depth + 1, '[' :: s =>
    match skipGap s with
    | ']' :: s => .ok (.arr [], s)
    | s => (items (value strict depth) (s.length + 1) [] s).map fun (vs, rest) => (.arr vs, rest)
  | depth + 1, '{' :: s =>
    match skipGap s with
    | '}' :: s => .ok (.obj [], s)
    | s => (members strict (value strict depth) (s.length + 1) [] s).map fun (ms, rest) =>
      (.obj ms, rest)
  | _ + 1, s => scalar strict s

/-- How many arrays and objects a strict reader takes inside each other.  It counts them itself. -/
def strictDepth : Nat := 200

/-- Reads a whole text, with no more than `depth` arrays and objects inside each other.  Only a
strict reader refuses escapes for half a surrogate pair. -/
def readWith (strict : Bool) (depth : Nat) (text : List Char) : Except Fault Json :=
  if text.head? = some '\uFEFF' then .error (.text .byteOrderMark text)
  else
    match value strict depth (skipGap text) with
    | .error fault => .error fault
    | .ok (v, s) => if (skipGap s).isEmpty then .ok v else .error (.text .extraData (skipGap s))

/-- Reads a text that is found in a document. -/
def read [Interpreter] (text : String) : Except Fault Json :=
  readWith false Interpreter.jsonDepth text.toList

/-- Reads a text that was written to be read. -/
def readStrict (text : String) : Except Fault Json := readWith true strictDepth text.toList

/-! ### Places -/

/-- The number of characters before what is left of a text. -/
def indexOf (rest : List Char) (text : String) : Nat := text.length - rest.length

/-- The cause and the place: the line and the column count from one, the index from zero. -/
def Cause.messageAt (cause : Cause) (rest : List Char) (text : String) : String :=
  let index := indexOf rest text
  let before := text.toList.take index
  let line := before.count '\n' + 1
  let column := (before.reverse.takeWhile (· != '\n')).length + 1
  s!"{cause.message}: line {line} column {column} (char {index})"

def Fault.message (fault : Fault) (text : String) : String :=
  match fault with
  | .text cause rest => cause.messageAt rest text
  | .excess e => e.message

end ClientScribe.Json
