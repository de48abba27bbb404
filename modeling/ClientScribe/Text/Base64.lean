/-!
Bytes in base 64.  What is no digit is passed over; padding has to complete the last group, and
nothing behind it counts.
-/

namespace ClientScribe.Text

def base64Value? (c : Char) : Option Nat :=
  if 'A' ≤ c && c ≤ 'Z' then some (c.toNat - 65)
  else if 'a' ≤ c && c ≤ 'z' then some (c.toNat - 71)
  else if '0' ≤ c && c ≤ '9' then some (c.toNat + 4)
  else if c = '+' then some 62
  else if c = '/' then some 63
  else none

/-- The bytes of a text.  `group` holds the values since the last whole group, first to last, and
`pads` counts the padding behind them. -/
def base64From (group : List Nat) (pads : Nat) : List Char → Option (List UInt8)
  | [] => if group.isEmpty then some [] else none
  | c :: s =>
    if c = '=' then
      if 2 ≤ group.length then
        if 4 ≤ group.length + pads + 1 then some [] else base64From group (pads + 1) s
      else base64From group pads s
    else
      match base64Value? c, group with
      | none, group => base64From group pads s
      | some v, [] => base64From [v] 0 s
      | some v, [a] => (base64From [a, v] 0 s).map (UInt8.ofNat (a * 4 + v / 16) :: ·)
      | some v, [a, b] => (base64From [a, b, v] 0 s).map (UInt8.ofNat (b % 16 * 16 + v / 4) :: ·)
      | some v, _ :: _ :: c :: _ => (base64From [] 0 s).map (UInt8.ofNat (c % 4 * 64 + v) :: ·)

/-- The bytes that a text writes. -/
def base64? (s : List Char) : Option (List UInt8) := base64From [] 0 s

example : base64? "aGk=".toList = some [104, 105] := by decide

end ClientScribe.Text
