/-!
The floating-point number nearest to a decimal, and the shortest decimal of a floating-point number:
the fewest digits that read back to it, and among those the nearest to it.  The digits are chosen in
exact arithmetic on the mantissa and the exponent of the number, so nothing is rounded on the way.
-/

namespace ClientScribe.Decimal

/-- Beyond this many places in front of the point every number is infinite, and as many behind it
every number is zero. -/
def horizon : Int := 400

/-- The number nearest to `digits · 10 ^ exponent`.  Decimals far beyond the range are settled
without computing the power. -/
def nearest (digits : Nat) (exponent : Int) : Float :=
  let places := (Nat.toDigits 10 digits).length + exponent
  if digits = 0 || places < -horizon then 0
  else if horizon < places then 1 / 0
  else Float.ofScientific digits (exponent < 0) exponent.natAbs

/-- The power of `base` with a whole exponent; below zero it is one. -/
def power (base : Nat) (e : Int) : Nat := Nat.pow base e.toNat

/-- A finite number `mantissa · 2 ^ exponent` without its sign.  Below a power of two the next
number is half as far away as above it. -/
structure Magnitude where
  mantissa : Nat
  exponent : Int
  closeBelow : Bool

/-- The magnitude held by the bits of a finite number. -/
def Magnitude.ofBits (bits : UInt64) : Magnitude :=
  let e := ((bits >>> 52) &&& 0x7FF).toNat
  let f := (bits &&& 0xFFFFFFFFFFFFF).toNat
  if e = 0 then ⟨f, -1074, false⟩ else ⟨0x10000000000000 + f, (e : Int) - 1075, f = 0 && 1 < e⟩

/-- The magnitude as a whole number, if it is one. -/
def Magnitude.whole? (x : Magnitude) : Option Nat :=
  let unit := power 2 (-x.exponent)
  if x.mantissa % unit = 0 then some (x.mantissa * power 2 x.exponent / unit) else none

/-- A finite number with a whole value, as that value. -/
def whole? (x : Float) : Option Int :=
  if x.isNaN || x.isInf then none
  else (Magnitude.ofBits (x.toBits &&& 0x7FFFFFFFFFFFFFFF)).whole?.map fun n =>
    if x.toBits >>> 63 == 1 then -(n : Int) else n

/-- `digits · 10 ^ exponent` -/
structure Digits where
  digits : Nat
  exponent : Int
deriving DecidableEq, Repr

/-- How `d` compares with `n · 2 ^ j`. -/
def Digits.compareBinary (d : Digits) (n : Nat) (j : Int) : Ordering :=
  compare (d.digits * power 10 d.exponent * power 2 (-j)) (n * power 2 j * power 10 (-d.exponent))

/-- Whether `d` lies among the reals that round to `x`: between the midpoints to its neighbours,
which belong to `x` when its mantissa is even. -/
def Magnitude.readsBack (x : Magnitude) (d : Digits) : Bool :=
  let lower := d.compareBinary (if x.closeBelow then 4 * x.mantissa - 1 else 4 * x.mantissa - 2)
    (x.exponent - 2)
  let upper := d.compareBinary (4 * x.mantissa + 2) (x.exponent - 2)
  let even := x.mantissa % 2 == 0
  (lower == .gt || (even && lower == .eq)) && (upper == .lt || (even && upper == .eq))

/-- The least `k` with `x < 10 ^ k`, for a positive `x`; the binary logarithm gives it up to two. -/
def Magnitude.places (x : Magnitude) : Int :=
  let guess := ((x.mantissa.log2 : Int) + x.exponent) * 30103 / 100000
  (([guess - 1, guess, guess + 1].find? fun k =>
    (Digits.mk 1 k).compareBinary x.mantissa x.exponent == .gt).getD (guess + 2))

/-- The whole multiples of `10 ^ e` in `x`. -/
def Magnitude.floorAt (x : Magnitude) (e : Int) : Nat :=
  x.mantissa * power 2 x.exponent * power 10 (-e) / (power 2 (-x.exponent) * power 10 e)

/-- Of the two multiples of `10 ^ e` around `x`, the one that reads back; of two, the nearer; of two
equally near, the even one. -/
def Magnitude.atGrid (x : Magnitude) (e : Int) : Option Digits :=
  let low : Digits := ⟨x.floorAt e, e⟩
  let high : Digits := ⟨x.floorAt e + 1, e⟩
  match x.readsBack low, x.readsBack high with
  | false, false => none
  | true, false => some low
  | false, true => some high
  | true, true =>
    match (Digits.mk (2 * x.floorAt e + 1) e).compareBinary (2 * x.mantissa) x.exponent with
    | .gt => some low
    | .lt => some high
    | .eq => if x.floorAt e % 2 = 0 then some low else some high

/-- The coarsest grid with a multiple that reads back decides; grids of one to seventeen digits are
tried. -/
def Magnitude.shortest (x : Magnitude) : Digits :=
  let k := x.places
  ((List.range 17).findSome? fun (n : Nat) => x.atGrid (k - (n + 1))).getD
    ⟨x.floorAt (k - 17), k - 17⟩

end ClientScribe.Decimal
