import ClientScribe.Text.Integer
import ClientScribe.Text.Quoted

/-!
Why a document has no value.  Whatever breaks the rules of the notation is one cause; numbers,
flags, dates and character codes that the notation admits but that do not exist are others, and so
is nesting without a bound.
-/

namespace ClientScribe.Yaml

/-- What is out of range in a date or a time of day. -/
inductive MomentFault where
  /-- An offset of a day or more. -/
  | offset (minutes : Int)
  | year
  | month
  | day
  | hour
  | minute
  | second
deriving DecidableEq, Repr

inductive Fault where
  | malformed
  /-- An escape for a code beyond the last character. -/
  | noCharacter (code : Nat)
  /-- A text that is no whole number in a base. -/
  | noInteger (base : Nat) (text : List Char)
  | emptyNumber
  | tooManyDigits (count : Nat)
  | noDecimal (text : List Char)
  /-- A fraction in base sixty with too many digits. -/
  | farNumber
  | noFlag (text : List Char)
  | noMoment
  /-- A mapping where only a scalar can be a date. -/
  | momentInMapping
  | badMoment (fault : MomentFault)
  | endless
deriving DecidableEq, Repr

/-- An offset in days and seconds; the seconds are never negative. -/
def offsetText (minutes : Int) : String :=
  let seconds := minutes % 1440 * 60
  let days := minutes / 1440
  if seconds = 0 then s!"datetime.timedelta(days={days})"
  else s!"datetime.timedelta(days={days}, seconds={seconds})"

def MomentFault.message : MomentFault → String
  | .offset minutes =>
    "offset must be a timedelta strictly between -timedelta(hours=24) and timedelta(hours=24), not "
      ++ offsetText minutes ++ "."
  | .year => "year 0 is out of range"
  | .month => "month must be in 1..12"
  | .day => "day is out of range for month"
  | .hour => "hour must be in 0..23"
  | .minute => "minute must be in 0..59"
  | .second => "second must be in 0..59"

/-- The quoted text that a message about a whole number shows is cut after so many characters. -/
def shownWidth : Nat := 200

def Fault.message : Fault → String
  | .malformed => "not well-formed"
  | .noCharacter code =>
    if code < 0x80000000 then "chr() arg not in range(0x110000)"
    else "Python int too large to convert to C int"
  | .noInteger base text =>
    s!"invalid literal for int() with base {base}: "
      ++ String.ofList ((Text.quoted text).take shownWidth)
  | .emptyNumber => "string index out of range"
  | .tooManyDigits count => Text.excessDigits count
  | .noDecimal text =>
    "could not convert string to float: " ++ String.ofList (Text.quoted text)
  | .farNumber => "int too large to convert to float"
  | .noFlag text => String.ofList (Text.quoted text)
  | .noMoment => "'NoneType' object has no attribute 'groupdict'"
  | .momentInMapping => "expected string or bytes-like object, got 'list'"
  | .badMoment fault => fault.message
  | .endless => "maximum recursion depth exceeded"

end ClientScribe.Yaml
