/-!
Sets of code points kept as closed ranges, ascending and apart.  The character classes of the
library are tables of this shape; `Ranges.Ascending` is what makes the early exit of
`Ranges.has` sound, and `Ranges.has_iff_mem` says so.
-/

namespace ClientScribe

/-- Closed ranges of code points. -/
abbrev Ranges := List (Nat × Nat)

/-- Membership, stopping at the first range that begins after `n`. -/
def Ranges.has (n : Nat) : Ranges → Bool
  | [] => false
  | (lo, hi) :: rest => if n < lo then false else n ≤ hi || Ranges.has n rest

/-- Every range is non-empty and begins after the one before it has ended. -/
def Ranges.Ascending : Ranges → Bool
  | [] => true
  | [(lo, hi)] => lo ≤ hi
  | (lo, hi) :: (lo', hi') :: rest => lo ≤ hi && hi < lo' && Ranges.Ascending ((lo', hi') :: rest)

theorem Ranges.Ascending.tail {r : Nat × Nat} {rest : Ranges}
    (h : Ranges.Ascending (r :: rest) = true) : Ranges.Ascending rest = true := by
  cases rest with
  | nil => rfl
  | cons s rest =>
    obtain ⟨lo, hi⟩ := r
    obtain ⟨lo', hi'⟩ := s
    simp only [Ranges.Ascending, Bool.and_eq_true] at h
    exact h.2

theorem Ranges.Ascending.lt_of_mem {lo hi : Nat} {rest : Ranges}
    (h : Ranges.Ascending ((lo, hi) :: rest) = true) : ∀ s ∈ rest, lo < s.1 := by
  induction rest generalizing lo hi with
  | nil => simp
  | cons s rest ih =>
    obtain ⟨lo', hi'⟩ := s
    have htail := Ranges.Ascending.tail h
    simp only [Ranges.Ascending, Bool.and_eq_true, decide_eq_true_eq] at h
    intro t ht
    rcases List.mem_cons.1 ht with rfl | ht
    · exact Nat.lt_of_le_of_lt h.1.1 h.1.2
    · exact Nat.lt_trans (Nat.lt_of_le_of_lt h.1.1 h.1.2) (ih htail t ht)

/-- In an ascending table the early exit loses nothing. -/
theorem Ranges.has_iff_mem {n : Nat} {table : Ranges} (h : Ranges.Ascending table = true) :
    Ranges.has n table = true ↔ ∃ r ∈ table, r.1 ≤ n ∧ n ≤ r.2 := by
  induction table with
  | nil => simp [Ranges.has]
  | cons r rest ih =>
    obtain ⟨lo, hi⟩ := r
    have hlt := Ranges.Ascending.lt_of_mem h
    by_cases hn : n < lo
    · have hnone : ¬ ∃ r ∈ (lo, hi) :: rest, r.1 ≤ n ∧ n ≤ r.2 := by
        rintro ⟨s, hs, hle, -⟩
        rcases List.mem_cons.1 hs with rfl | hs
        · exact absurd hle (Nat.not_le.2 hn)
        · exact absurd hle (Nat.not_le.2 (Nat.lt_trans hn (hlt s hs)))
      simp only [Ranges.has, hn, if_true]
      exact ⟨fun hf => absurd hf (by decide), fun hex => absurd hex hnone⟩
    · simp [Ranges.has, hn, ih (Ranges.Ascending.tail h), Nat.not_lt.1 hn]

end ClientScribe
