import ClientScribe.Decimal.Shortest

/-!
How a floating-point number is written: its shortest decimal, positionally where the leading digit
stands for 10 ^ -4 to 10 ^ 15 and with a signed exponent of at least two digits elsewhere.  A
positional number always shows a point.
-/

namespace ClientScribe.Decimal

/-- The exponents of the leading digit for which a number is written positionally. -/
def isPositional (e : Int) : Bool := -4 ≤ e && e < 16

/-- Digits `ds` of which the first stands for `10 ^ e`, written positionally. -/
def positional (ds : List Char) (e : Int) : List Char :=
  if e < 0 then '0' :: '.' :: List.replicate (-e - 1).toNat '0' ++ ds
  else
    let whole := e.toNat + 1
    let padded := ds ++ List.replicate (whole + 1 - ds.length) '0'
    padded.take whole ++ '.' :: padded.drop whole

/-- The sign and the digits of an exponent, at least two. -/
def exponentText (e : Int) : List Char :=
  (if e < 0 then '-' else '+') ::
    (if e.natAbs < 10 then ['0'] else []) ++ Nat.toDigits 10 e.natAbs

/-- Digits `ds` of which the first stands for `10 ^ e`, written with an exponent. -/
def scientific (ds : List Char) (e : Int) : List Char :=
  match ds with
  | [] => []
  | [d] => d :: 'e' :: exponentText e
  | d :: rest => d :: '.' :: rest ++ 'e' :: exponentText e

/-- The text of a positive decimal. -/
def Digits.text (d : Digits) : List Char :=
  let all := Nat.toDigits 10 d.digits
  let e := d.exponent + all.length - 1
  let ds := (all.reverse.dropWhile (· == '0')).reverse
  if isPositional e then positional ds e else scientific ds e

/-- The text of any number. -/
def text (x : Float) : List Char :=
  if x.isNaN then ['n', 'a', 'n']
  else
    let sign := if x.toBits >>> 63 == 1 then ['-'] else []
    if x.isInf then sign ++ ['i', 'n', 'f']
    else if x == 0 then sign ++ ['0', '.', '0']
    else sign ++ (Magnitude.ofBits (x.toBits &&& 0x7FFFFFFFFFFFFFFF)).shortest.text

example : text 0.1 = ['0', '.', '1'] := by decide

example : text 1e16 = ['1', 'e', '+', '1', '6'] := by decide

example : text (-2500.0) = ['-', '2', '5', '0', '0', '.', '0'] := by decide

end ClientScribe.Decimal
