import ClientScribe.Text.Search
import Mathlib.Data.List.Infix

/-!
Occurrences.  A text is found wherever it is a part of another one, and only there; the first
occurrence is found where nothing stands in front of it that holds one.
-/

namespace ClientScribe.Text

variable {needle s : List Char}

theorem has_iff_infix : has needle s = true ↔ needle <:+: s := by
  induction s with
  | nil => rw [has, List.isEmpty_iff, List.infix_nil]
  | cons c s ih =>
    rw [has, Bool.or_eq_true, List.isPrefixOf_iff_prefix, ih, List.infix_cons_iff]

/-- A text is cut only where the separator occurs. -/
theorem infix_of_length_pieces {sep : List Char} (h : 1 < (pieces sep s).length) : sep <:+: s := by
  rw [pieces] at h
  generalize [] = piece at h
  induction s generalizing piece with
  | nil => exact absurd h (by simp [piecesFrom])
  | cons c s ih =>
    rw [piecesFrom] at h
    split at h
    · rename_i hprefix
      exact (List.isPrefixOf_iff_prefix.1 hprefix).isInfix
    · exact List.infix_cons (ih (c :: piece) h)

/-- An occurrence does not start where its first character does not occur. -/
theorem infix_of_infix_append {c : Char} {t front : List Char} (hc : c ∉ front)
    (h : (c :: t) <:+: front ++ s) : (c :: t) <:+: s := by
  induction front with
  | nil => exact h
  | cons d front ih =>
    rw [List.mem_cons, not_or] at hc
    rcases List.infix_cons_iff.1 h with hprefix | hinfix
    · exact absurd (List.cons_prefix_cons.1 hprefix).1 hc.1
    · exact ih hc.2 hinfix

/-! ### The first occurrence

A text whose first character occurs in it only once does not overlap with itself, so its first
occurrence behind a text without it is the one that stands there. -/

variable {c : Char} {t : List Char}

theorem prefix_of_prefix_append (hc : c ∉ t) {rest : List Char} (h : t <+: s ++ c :: rest) :
    t <+: s := by
  induction t generalizing s with
  | nil => exact List.nil_prefix
  | cons d t ih =>
    rw [List.mem_cons, not_or] at hc
    cases s with
    | nil => exact absurd (List.cons_prefix_cons.1 h).1.symm hc.1
    | cons e s =>
      obtain ⟨hd, ht⟩ := List.cons_prefix_cons.1 h
      exact List.cons_prefix_cons.2 ⟨hd, ih hc.2 ht⟩

/-- An occurrence does not reach over a character that does not occur in it. -/
theorem infix_or_infix (hc : c ∉ needle) {rest : List Char} (h : needle <:+: s ++ c :: rest) :
    needle <:+: s ∨ needle <:+: rest := by
  induction s with
  | nil =>
    rcases List.infix_cons_iff.1 h with hprefix | hinfix
    · exact .inl (prefix_of_prefix_append (s := []) hc hprefix).isInfix
    · exact .inr hinfix
  | cons d s ih =>
    rcases List.infix_cons_iff.1 h with hprefix | hinfix
    · exact .inl (prefix_of_prefix_append (s := d :: s) hc hprefix).isInfix
    · exact (ih hinfix).imp_left List.infix_cons

theorem not_prefix_append (hc : c ∉ t) {d : Char} (h : ¬ (c :: t) <:+: d :: s)
    (rest : List Char) : ¬ (c :: t) <+: d :: s ++ c :: rest := by
  intro hprefix
  rw [List.cons_append, List.cons_prefix_cons] at hprefix
  obtain ⟨rfl, hprefix⟩ := hprefix
  exact h (List.cons_prefix_cons.2 ⟨rfl, prefix_of_prefix_append hc hprefix⟩).isInfix

theorem after?_append (hc : c ∉ t) (h : ¬ (c :: t) <:+: s) (rest : List Char) :
    after? (c :: t) (s ++ (c :: t ++ rest)) = some rest := by
  induction s with
  | nil =>
    rw [List.nil_append, List.cons_append, after?, ← List.cons_append,
      if_pos (List.isPrefixOf_iff_prefix.2 (List.prefix_append _ rest)), List.drop_left]
  | cons d s ih =>
    have hnot := not_prefix_append hc h (t ++ rest)
    rw [List.cons_append, after?, if_neg (by rwa [List.isPrefixOf_iff_prefix]),
      ih fun hs => h (List.infix_cons hs)]

theorem beforeFrom?_append (hc : c ∉ t) (h : ¬ (c :: t) <:+: s) (seen rest : List Char) :
    beforeFrom? (c :: t) seen (s ++ (c :: t ++ rest)) = some (seen.reverse ++ s) := by
  induction s generalizing seen with
  | nil =>
    rw [List.nil_append, List.cons_append, beforeFrom?, ← List.cons_append,
      if_pos (List.isPrefixOf_iff_prefix.2 (List.prefix_append _ rest)), List.append_nil]
  | cons d s ih =>
    have hnot := not_prefix_append hc h (t ++ rest)
    rw [List.cons_append, beforeFrom?, if_neg (by rwa [List.isPrefixOf_iff_prefix]),
      ih fun hs => h (List.infix_cons hs), List.reverse_cons, List.append_assoc]
    rfl

theorem before?_append (hc : c ∉ t) (h : ¬ (c :: t) <:+: s) (rest : List Char) :
    before? (c :: t) (s ++ (c :: t ++ rest)) = some s := by
  rw [before?, beforeFrom?_append hc h]
  rfl

/-- What stands in front of the first occurrence of a character, and the text from there on. -/
theorem takeWhile_ne_append {c : Char} (hc : c ∉ s) (rest : List Char) :
    (s ++ c :: rest).dropWhile (· ≠ c) = c :: rest ∧ (s ++ c :: rest).takeWhile (· ≠ c) = s := by
  refine dropWhile_append_of_head? (fun d hd => decide_eq_true fun heq => hc (heq ▸ hd)) ?_
  intro d hd
  rw [← Option.some.inj hd]
  exact decide_eq_false fun hne => hne rfl

end ClientScribe.Text
