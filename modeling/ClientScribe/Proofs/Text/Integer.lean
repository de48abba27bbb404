import ClientScribe.Text.Integer
import Mathlib.Algebra.Group.Nat.Defs

/-!
Reading back a number that was written in decimal digits.
-/

namespace ClientScribe.Text

variable {c : Char} {s : List Char}

theorem toNat_of_isDigit (h : c.isDigit = true) : 48 ≤ c.toNat ∧ c.toNat < 58 := by
  rw [Char.isDigit, Bool.and_eq_true, decide_eq_true_eq, decide_eq_true_eq] at h
  exact ⟨h.1, Nat.lt_succ_of_le h.2⟩

theorem digitValue?_of_isDigit (h : c.isDigit = true) :
    digitValue? c = some (c.toNat - '0'.toNat) := by
  have hfind : (zeros.find? fun z => z ≤ c.toNat && c.toNat < z + 10) = some 48 := by
    rw [zeros, List.find?_cons_of_pos (by simpa using toNat_of_isDigit h)]
  rw [digitValue?, hfind]
  rfl

theorem isNumberBlank_of_isDigit (h : c.isDigit = true) : isNumberBlank c = false := by
  have hrange := toNat_of_isDigit h
  have hblank : c ≠ ' ' := by
    rintro rfl
    exact absurd hrange (by decide)
  simp only [isNumberBlank, hblank, decide_false, Bool.false_or, Bool.or_eq_false_iff,
    Bool.and_eq_false_imp, decide_eq_true_eq, decide_eq_false_iff_not]
  omega

/-- The value of decimal digits is the number that they write. -/
theorem natural?_of_isDigit (h : ∀ c ∈ s, c.isDigit = true) (hne : s ≠ [])
    (hlength : s.length ≤ maxDigits) : natural? s = some (Nat.ofDigitChars 10 s 0) := by
  have hunderscore : '_' ∉ s := fun hmem => absurd (h '_' hmem) (by decide)
  have hvalues : s.mapM digitValue? = some (s.map fun c => c.toNat - '0'.toNat) := by
    clear hne hlength hunderscore
    induction s with
    | nil => rfl
    | cons c s ih =>
      rw [List.forall_mem_cons] at h
      rw [List.mapM_cons, digitValue?_of_isDigit h.1, ih h.2]
      rfl
  have hdigits : digits? s = some (s.map fun c => c.toNat - '0'.toNat) := by
    simp [digits?, splitOn_of_not_mem hunderscore, hne, hvalues]
  rw [natural?, hdigits, Option.bind_some, List.length_map, if_pos hlength, digitsValue,
    List.foldl_map, Nat.ofDigitChars]

theorem integer?_of_isDigit (h : ∀ c ∈ s, c.isDigit = true) :
    integer? s = (natural? s).map Int.ofNat := by
  have hkeep {t : List Char} (ht : ∀ c ∈ t, c.isDigit = true) : t.dropWhile isNumberBlank = t := by
    cases t with
    | nil => rfl
    | cons c t => simp [isNumberBlank_of_isDigit (ht c List.mem_cons_self)]
  have hreverse : ∀ c ∈ s.reverse, c.isDigit = true := fun c hc => h c (List.mem_reverse.1 hc)
  rw [integer?, hkeep h, hkeep hreverse, List.reverse_reverse]
  cases s with
  | nil => rfl
  | cons c s =>
    have hc := h c List.mem_cons_self
    rw [unsignedOrSigned?.eq_3 (c :: s)]
    · rintro t ht
      obtain rfl := (List.cons.inj ht).1
      exact absurd hc (by decide)
    · rintro t ht
      obtain rfl := (List.cons.inj ht).1
      exact absurd hc (by decide)

/-- A number is read back from its digits, unless they are too many. -/
theorem integer?_toDigits {n : Nat} (hn : n < 10 ^ maxDigits) :
    integer? (Nat.toDigits 10 n) = some (n : Int) := by
  have hdigit : ∀ c ∈ Nat.toDigits 10 n, c.isDigit = true :=
    fun c hc => Nat.isDigit_of_mem_toDigits (by decide) (by decide) hc
  have hlength : (Nat.toDigits 10 n).length ≤ maxDigits :=
    (Nat.length_toDigits_le_iff (by decide) (by decide)).2 hn
  rw [integer?_of_isDigit hdigit, natural?_of_isDigit hdigit Nat.toDigits_ne_nil hlength,
    Nat.ofDigitChars_ten_toDigits]
  rfl

end ClientScribe.Text
