import ClientScribe.Decimal.Shortest
import ClientScribe.Text.Case
import ClientScribe.Text.Hex
import ClientScribe.Text.Integer
import ClientScribe.Yaml.Fault

/-!
Numbers.  Whole numbers are written in base two, eight, ten, sixteen or sixty, fractions in base
ten or sixty; underscores may stand anywhere behind the first digit.  The forms that a plain scalar
needs to be a number are strict; a scalar that is tagged as a number may take some more.
-/

namespace ClientScribe.Yaml

open Text (isNumberBlank splitOn)

/-! ### Forms -/

def isBinary (c : Char) : Bool := c = '0' || c = '1' || c = '_'

def isOctal (c : Char) : Bool := ('0' ≤ c && c ≤ '7') || c = '_'

def isDecimal (c : Char) : Bool := c.isDigit || c = '_'

def isHexadecimal (c : Char) : Bool := Text.isHex c || c = '_'

/-- The text without a sign in front. -/
def unsigned : List Char → List Char
  | '+' :: s => s
  | '-' :: s => s
  | s => s

/-- A digit in base sixty behind the first: a number below sixty in one or two digits. -/
def isSixtieth : List Char → Bool
  | [a] => a.isDigit
  | [a, b] => '0' ≤ a && a ≤ '5' && b.isDigit
  | _ => false

/-- A number that starts with a digit of class `first`, in base ten or, with colons, in base
sixty. -/
def isWhole (first : Char → Bool) (sixty : Bool) (s : List Char) : Bool :=
  match splitOn ':' s with
  | (c :: ds) :: more =>
    first c && ds.all isDecimal && more.isEmpty != sixty && more.all isSixtieth
  | _ => false

def isInt (s : List Char) : Bool :=
  match unsigned s with
  | '0' :: 'b' :: ds => !ds.isEmpty && ds.all isBinary
  | '0' :: 'x' :: ds => !ds.isEmpty && ds.all isHexadecimal
  | '0' :: ds => ds.all isOctal
  | ds =>
    let first := fun c : Char => c.isDigit && c ≠ '0'
    isWhole first false ds || isWhole first true ds

/-- The digits behind a point, and an exponent that shows its sign. -/
def isFraction (s : List Char) : Bool :=
  match s.dropWhile isDecimal with
  | [] => true
  | e :: sign :: ds =>
    (e = 'e' || e = 'E') && (sign = '+' || sign = '-') && !ds.isEmpty && ds.all Char.isDigit
  | _ => false

def isInfinity (s : List Char) : Bool :=
  [".inf", ".Inf", ".INF"].any fun name => name.toList = s

def isNan (s : List Char) : Bool := [".nan", ".NaN", ".NAN"].any fun name => name.toList = s

def isFloat (s : List Char) : Bool :=
  isNan s || isInfinity (unsigned s) ||
    match splitOn '.' s with
    | [[], behind] => behind.head?.any Char.isDigit && isFraction behind
    | [front, behind] =>
      (isWhole Char.isDigit false (unsigned front) && isFraction behind)
        || (isWhole Char.isDigit true (unsigned front) && behind.all isDecimal)
    | _ => false

/-! ### Values -/

/-- The value of a digit or letter in bases up to sixteen; decimal digits of any script count. -/
def digitOf? (c : Char) : Option Nat := (Text.digitValue? c).or (Text.hexValue? c)

def trimNumber (s : List Char) : List Char :=
  ((s.dropWhile isNumberBlank).reverse.dropWhile isNumberBlank).reverse

/-- The digits behind a mark for the base, if one stands there. -/
def dropBaseMark (mark : Char) : List Char → List Char
  | '0' :: c :: s => if c.toLower = mark then s else '0' :: c :: s
  | s => s

/-- Reads a whole number in base two, eight or sixteen; the mark of the base may stand in front. -/
def inBase (base : Nat) (mark : Char) (s : List Char) : Except Fault Int :=
  let trimmed := trimNumber s
  let digits := (dropBaseMark mark (unsigned trimmed)).map digitOf?
  if digits.isEmpty || digits.any fun d => d.all (base ≤ ·) then .error (.noInteger base s)
  else
    let n : Nat := digits.foldl (fun n d => base * n + d.getD 0) 0
    .ok (if trimmed.head? = some '-' then -(n : Int) else n)

/-- Reads a whole number in base ten. -/
def inTen (s : List Char) : Except Fault Int :=
  match Text.integer? s with
  | some n => .ok n
  | none =>
    let digits := unsigned (trimNumber s)
    if digits.all (fun c => (Text.digitValue? c).isSome) && Text.maxDigits < digits.length then
      .error (.tooManyDigits digits.length)
    else .error (.noInteger 10 s)

/-- The value of digits in base sixty, most significant first. -/
def sixties (digits : List Int) : Int := digits.foldl (fun n d => 60 * n + d) 0

/-- Reads a whole number that has no underscores and no sign. -/
def wholeValue : List Char → Except Fault Int
  | [] => .error .emptyNumber
  | ['0'] => .ok 0
  | '0' :: 'b' :: s => inBase 2 'b' s
  | '0' :: 'x' :: s => inBase 16 'x' s
  | '0' :: s => inBase 8 'o' ('0' :: s)
  | s => if s.contains ':' then ((splitOn ':' s).mapM inTen).map sixties else inTen s

/-- Reads what is tagged as a whole number. -/
def intValue (s : List Char) : Except Fault Int :=
  let s := s.filter (· ≠ '_')
  let sign := if s.head? = some '-' then (-1 : Int) else 1
  if s.isEmpty then .error .emptyNumber
  else (wholeValue (unsigned s)).map (sign * ·)

/-- The digits of a text, if it holds nothing else. -/
def digitsOf? (s : List Char) : Option (List Nat) := s.mapM Text.digitValue?

/-- The exponent that a text writes behind its letter. -/
def exponentOf? (s : List Char) : Option Int :=
  match digitsOf? (unsigned s) with
  | none | some [] => none
  | some ds =>
    let n : Int := Text.digitsValue ds
    some (if s.head? = some '-' then -n else n)

/-- A decimal without a sign: digits, perhaps a point among them, perhaps an exponent. -/
def unsignedDecimal? (s : List Char) : Option Float := do
  let mantissa := s.takeWhile fun c => c ≠ 'e' && c ≠ 'E'
  let exponent ←
    match s.dropWhile fun c => c ≠ 'e' && c ≠ 'E' with
    | [] => some 0
    | _ :: e => exponentOf? e
  let (front, behind) ←
    match splitOn '.' mantissa with
    | [front] => some (front, [])
    | [front, behind] => some (front, behind)
    | _ => none
  let digits ← digitsOf? (front ++ behind)
  if digits.isEmpty then none
  else some (Decimal.nearest (Text.digitsValue digits) (exponent - behind.length))

/-- The names of numbers that have no digits, in lower case. -/
def unusualDecimals : List (String × Float) :=
  [("inf", 1 / 0), ("infinity", 1 / 0), ("nan", 0 / 0)]

/-- Reads a decimal; blanks may stand around it. -/
def decimal (s : List Char) : Except Fault Float :=
  let trimmed := trimNumber s
  let digits := unsigned trimmed
  let name := String.ofList (digits.map Char.toLower)
  match (unusualDecimals.lookup name).or (unsignedDecimal? digits) with
  | some x => .ok (if trimmed.head? = some '-' then -x else x)
  | none => .error (.noDecimal s)

/-- The value of fractions in base sixty, least significant first, the first of which counts
`unit`. -/
def sixtiesFrom (unit : Nat) (sum : Float) : List Float → Except Fault Float
  | [] => .ok sum
  | d :: ds =>
    let factor := Float.ofNat unit
    if factor.isInf then .error .farNumber else sixtiesFrom (60 * unit) (sum + d * factor) ds

/-- The text of a number that may have a fraction, in lower case and without underscores. -/
def bareNumber (s : List Char) : List Char := Text.lower (s.filter (· ≠ '_'))

/-- Whether a text spells out that it is no number. -/
def spellsNan (s : List Char) : Bool := unsigned (bareNumber s) = ".nan".toList

/-- Reads what is tagged as a number that may have a fraction. -/
def floatValue (s : List Char) : Except Fault Float :=
  let bare := bareNumber s
  let signed (x : Float) : Float := if bare.head? = some '-' then -x else x
  let digits := unsigned bare
  if bare.isEmpty then .error .emptyNumber
  else if digits = ".inf".toList then .ok (signed (1 / 0))
  else if digits = ".nan".toList then .ok (0 / 0)
  else if digits.contains ':' then do
    let ds ← (splitOn ':' digits).mapM decimal
    return signed (← sixtiesFrom 1 0 ds.reverse)
  else (decimal digits).map signed

end ClientScribe.Yaml
