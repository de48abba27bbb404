/-!
Hexadecimal digits and the numbers that they write.
-/

namespace ClientScribe.Text

/-- The value of a hexadecimal digit in either case. -/
def hexValue? (c : Char) : Option Nat :=
  if '0' ≤ c && c ≤ '9' then some (c.toNat - 48)
  else if 'a' ≤ c && c ≤ 'f' then some (c.toNat - 87)
  else if 'A' ≤ c && c ≤ 'F' then some (c.toNat - 55)
  else none

def isHex (c : Char) : Bool := (hexValue? c).isSome

/-- The number that hexadecimal digits write, most significant first. -/
def hexNumber (ds : List Char) : Nat := ds.foldl (fun n c => 16 * n + (hexValue? c).getD 0) 0

def hexDigit (n : Nat) : Char := if n < 10 then Char.ofNat (48 + n) else Char.ofNat (87 + n)

/-- The last `width` hexadecimal digits of `n`, in lower case. -/
def hex : (width : Nat) → Nat → List Char
  | 0, _ => []
  | width + 1, n => hex width (n / 16) ++ [hexDigit (n % 16)]

theorem hexValue?_lt {c : Char} {n : Nat} (h : hexValue? c = some n) : n < 16 := by
  have hrange {first last : Char} {k : Nat} (hc : (first ≤ c && c ≤ last) = true)
      (hlast : last.toNat - k < 16) : c.toNat - k < 16 := by
    rw [Bool.and_eq_true, decide_eq_true_eq, decide_eq_true_eq] at hc
    have hle : c.toNat ≤ last.toNat := hc.2
    omega
  rw [hexValue?] at h
  split at h
  · exact Option.some.inj h ▸ hrange ‹_› (by decide)
  · split at h
    · exact Option.some.inj h ▸ hrange ‹_› (by decide)
    · split at h
      · exact Option.some.inj h ▸ hrange ‹_› (by decide)
      · exact absurd h (by simp)

theorem hexValue?_hexDigit {n : Nat} (h : n < 16) : hexValue? (hexDigit n) = some n := by
  revert n
  decide

end ClientScribe.Text
