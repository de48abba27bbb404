import ClientScribe.Text.Integer
import ClientScribe.Yaml.Cursor

/-!
Dates, alone or with a time of day.  A date alone is a plain scalar of ten characters; with a time,
months and days may have one digit.
-/

namespace ClientScribe.Yaml

/-- A time of day; the offset, in minutes, tells how far it is ahead of universal time. -/
structure ClockTime where
  hour : Nat
  minute : Nat
  second : Nat
  microsecond : Nat
  offset : Option Int
deriving DecidableEq, Repr

structure Moment where
  year : Nat
  month : Nat
  day : Nat
  time : Option ClockTime
deriving DecidableEq, Repr

namespace Moment

/-- Reads at least `least` and at most `most` digits. -/
def digits? (least most : Nat) (s : List Char) : Option (Nat × List Char) :=
  let ds := (s.take most).takeWhile Char.isDigit
  if ds.length < least then none
  else some (Text.digitsValue (ds.map fun c => c.toNat - 48), s.drop ds.length)

def sign? (c : Char) (s : List Char) : Option (List Char) :=
  if s.head? = some c then some (s.drop 1) else none

/-- What parts a date and a time: a letter or blanks. -/
def timeStart? (s : List Char) : Option (List Char) :=
  let isPad := fun c => c = ' ' || c = '\t'
  match s with
  | [] => none
  | c :: rest =>
    if c = 'T' || c = 't' then some rest else if isPad c then some (s.dropWhile isPad) else none

/-- Digits behind a point; six of them count. -/
def fraction (s : List Char) : Nat × List Char :=
  match s with
  | '.' :: s =>
    let ds := s.takeWhile Char.isDigit
    let six := (ds ++ List.replicate 6 '0').take 6
    (Text.digitsValue (six.map fun c => c.toNat - 48), s.dropWhile Char.isDigit)
  | s => (0, s)

/-- The minutes of an offset, if they are written. -/
def offsetMinutes? (s : List Char) : Option (Nat × List Char) :=
  match s with
  | ':' :: s => digits? 2 2 s
  | s => some (0, s)

/-- The offset at the end of a text, or nothing. -/
def offset? (s : List Char) : Option (Option Int) := do
  let s := s.dropWhile fun c => c = ' ' || c = '\t'
  match s with
  | ['Z'] => some (some 0)
  | c :: s =>
    if c = '+' || c = '-' then
      let (hours, s) ← digits? 1 2 s
      let (minutes, s) ← offsetMinutes? s
      let n : Int := 60 * hours + minutes
      if s.isEmpty then some (some (if c = '-' then -n else n)) else none
    else none
  | [] => some none

/-- A time of day up to the end of the text. -/
def clockTime? (s : List Char) : Option ClockTime := do
  let (hour, s) ← digits? 1 2 s
  let (minute, s) ← digits? 2 2 (← sign? ':' s)
  let (second, s) ← digits? 2 2 (← sign? ':' s)
  let (microsecond, s) := fraction s
  if s.isEmpty then return ⟨hour, minute, second, microsecond, none⟩
  let some offset ← offset? s | none
  return ⟨hour, minute, second, microsecond, some offset⟩

/-- The numbers of a text that has the form of a date. -/
def ofText? (s : List Char) : Option Moment := do
  let (year, s) ← digits? 4 4 s
  let (month, s) ← digits? 1 2 (← sign? '-' s)
  let (day, s) ← digits? 1 2 (← sign? '-' s)
  if s.isEmpty then return ⟨year, month, day, none⟩
  let time ← clockTime? (← timeStart? s)
  return ⟨year, month, day, some time⟩

/-- Whether a plain text is a date. -/
def isText (s : List Char) : Bool :=
  match ofText? s with
  | some m => m.time.isSome || s.length = 10
  | none => false

def isLeapYear (year : Nat) : Bool := year % 4 = 0 && (year % 100 ≠ 0 || year % 400 = 0)

def daysIn (year month : Nat) : Nat :=
  if month = 2 then if isLeapYear year then 29 else 28
  else if [4, 6, 9, 11].contains month then 30
  else 31

def ClockTime.fault? (t : ClockTime) : Option MomentFault :=
  if 23 < t.hour then some .hour
  else if 59 < t.minute then some .minute
  else if 59 < t.second then some .second
  else none

/-- The offset of a time, if it is a day or more. -/
def farOffset? (m : Moment) : Option Int :=
  (m.time.bind ClockTime.offset).filter fun minutes => 1440 ≤ minutes.natAbs

/-- What is out of range; the offset is looked at first. -/
def fault? (m : Moment) : Option MomentFault :=
  match m.farOffset? with
  | some minutes => some (.offset minutes)
  | none =>
    if m.year = 0 then some .year
    else if m.month = 0 || 12 < m.month then some .month
    else if m.day = 0 || daysIn m.year m.month < m.day then some .day
    else m.time.bind ClockTime.fault?

/-! ### Comparing -/

/-- The days from a fixed one to the start of a year. -/
def daysBefore (year : Nat) : Nat :=
  let past := year - 1
  365 * past + past / 4 - past / 100 + past / 400

/-- The days from a fixed one. -/
def dayNumber (m : Moment) : Nat :=
  daysBefore m.year
    + (List.range (m.month - 1)).foldl (fun days i => days + daysIn m.year (i + 1)) 0 + m.day

/-- The microseconds from a fixed moment of universal time, if an offset tells how far a time is
from that. -/
def instant? (m : Moment) : Option Int :=
  m.time.bind fun t => t.offset.map fun offset =>
    let minutes : Int := 1440 * m.dayNumber + 60 * t.hour + t.minute - offset
    (60 * minutes + t.second) * 1000000 + t.microsecond

/-- Times with offsets are the same if they are at once; other moments if they look alike. -/
def same (a b : Moment) : Bool :=
  match a.instant?, b.instant? with
  | some i, some j => i = j
  | none, none => a = b
  | _, _ => false

/-- The moment that a text means. -/
def value (s : List Char) : Except Fault Moment :=
  match ofText? (dropLineEnd s) with
  | none => .error .noMoment
  | some m =>
    match m.fault? with
    | some fault => .error (.badMoment fault)
    | none => .ok m

end Moment

end ClientScribe.Yaml
