import ClientScribe.Text.Ranges

/-!
Blank characters and what is done with them: trimming and cutting a text into words.  Blank means
white space in any script and also the four information separators U+001C to U+001F.
-/

namespace ClientScribe.Text

/-- The 29 blank characters. -/
def blankRanges : Ranges :=
  [(0x09, 0x0D), (0x1C, 0x20), (0x85, 0x85), (0xA0, 0xA0), (0x1680, 0x1680), (0x2000, 0x200A),
   (0x2028, 0x2029), (0x202F, 0x202F), (0x205F, 0x205F), (0x3000, 0x3000)]

def isBlank (c : Char) : Bool := blankRanges.has c.toNat

def trimStart (s : List Char) : List Char := s.dropWhile isBlank

/-- The text without the blanks at its end. -/
def trimEnd : List Char → List Char
  | [] => []
  | c :: s =>
    match trimEnd s with
    | [] => if isBlank c then [] else [c]
    | d :: r => c :: d :: r

def trim (s : List Char) : List Char := trimEnd (trimStart s)

/-- The maximal runs of non-blank characters; `word` holds the run under way, last character
first. -/
def wordsFrom (word : List Char) : List Char → List (List Char)
  | [] => if word.isEmpty then [] else [word.reverse]
  | c :: s =>
    if isBlank c then
      if word.isEmpty then wordsFrom [] s else word.reverse :: wordsFrom [] s
    else wordsFrom (c :: word) s

/-- The maximal runs of non-blank characters, in order. -/
def words (s : List Char) : List (List Char) := wordsFrom [] s

theorem trimEnd_eq_nil_iff {s : List Char} : trimEnd s = [] ↔ s.all isBlank = true := by
  induction s with
  | nil => simp [trimEnd]
  | cons c s ih =>
    cases h : trimEnd s with
    | nil => simp [trimEnd, h, ih.1 h]
    | cons d r =>
      have : ¬ s.all isBlank = true := fun hs => by simp [ih.2 hs] at h
      simp only [trimEnd, h, List.all_cons, Bool.and_eq_true]
      exact ⟨fun hf => absurd hf (by simp), fun hs => absurd hs.2 this⟩

theorem trimEnd_append_of_not_blank {s : List Char} {c : Char} (h : isBlank c = false) :
    trimEnd (s ++ [c]) = s ++ [c] := by
  induction s with
  | nil => simp [trimEnd, h]
  | cons d s ih =>
    rw [List.cons_append, trimEnd, ih]
    cases hs : s ++ [c] with
    | nil => simp at hs
    | cons e r => rfl

/-- Trimming two texts together trims the second, and the first only if nothing of that stays. -/
theorem trimEnd_append (s t : List Char) :
    trimEnd (s ++ t) = if trimEnd t = [] then trimEnd s else s ++ trimEnd t := by
  induction s with
  | nil => by_cases ht : trimEnd t = [] <;> simp [trimEnd, ht]
  | cons c s ih =>
    by_cases ht : trimEnd t = []
    · rw [if_pos ht] at ih ⊢
      rw [List.cons_append, trimEnd, trimEnd, ih]
    · rw [if_neg ht] at ih ⊢
      obtain ⟨d, r, hd⟩ := List.exists_cons_of_ne_nil (List.append_ne_nil_of_right_ne_nil s ht)
      rw [List.cons_append, trimEnd, ih, List.cons_append, hd]

theorem trimEnd_isPrefix (s : List Char) : trimEnd s <+: s := by
  induction s with
  | nil => exact List.nil_prefix
  | cons c s ih =>
    rw [trimEnd]
    split
    · split
      · exact List.nil_prefix
      · exact List.prefix_append [c] s
    · rename_i hrest
      rw [hrest] at ih
      exact List.cons_prefix_cons.2 ⟨rfl, ih⟩

theorem trimEnd_sublist (s : List Char) : (trimEnd s).Sublist s := (trimEnd_isPrefix s).sublist

/-- A trimmed text does not end in a blank. -/
theorem not_blank_of_mem_getLast?_trimEnd {s : List Char} :
    ∀ c ∈ (trimEnd s).getLast?, isBlank c = false := by
  induction s with
  | nil => simp [trimEnd]
  | cons c s ih =>
    rw [trimEnd]
    split
    · by_cases hc : isBlank c = true <;> simp [hc]
    · rename_i hrest
      rw [hrest] at ih
      simpa using ih

theorem not_blank_of_mem_head?_trim {s : List Char} :
    ∀ c ∈ (trim s).head?, isBlank c = false := by
  intro c hc
  obtain ⟨t, ht⟩ := trimEnd_isPrefix (trimStart s)
  have hstart : (s.dropWhile isBlank).head? = some c := by
    rw [← trimStart, ← ht, List.head?_append, ← trim, Option.mem_def.1 hc, Option.some_or]
  have hnot := List.head?_dropWhile_not isBlank s
  rwa [hstart] at hnot

/-- Trimming adds nothing. -/
theorem trim_sublist (s : List Char) : (trim s).Sublist s :=
  (trimEnd_sublist _).trans (List.dropWhile_sublist _)

theorem mem_of_mem_wordsFrom {s word w : List Char} (h : w ∈ wordsFrom word s) {c : Char}
    (hc : c ∈ w) : c ∈ word ∨ c ∈ s := by
  induction s generalizing word with
  | nil =>
    rw [wordsFrom] at h
    split at h
    · exact absurd h List.not_mem_nil
    · rw [List.mem_singleton.1 h] at hc
      exact .inl (List.mem_reverse.1 hc)
  | cons d s ih =>
    rw [wordsFrom] at h
    rw [List.mem_cons]
    split at h
    · split at h
      · exact .inr (.inr ((ih h).resolve_left List.not_mem_nil))
      · rcases List.mem_cons.1 h with rfl | h
        · exact .inl (List.mem_reverse.1 hc)
        · exact .inr (.inr ((ih h).resolve_left List.not_mem_nil))
    · rcases ih h with hword | hs
      · exact (List.mem_cons.1 hword).elim (fun hd => .inr (.inl hd)) .inl
      · exact .inr (.inr hs)

/-- A word holds characters of the text only. -/
theorem mem_of_mem_words {s w : List Char} (h : w ∈ words s) {c : Char} (hc : c ∈ w) : c ∈ s :=
  (mem_of_mem_wordsFrom h hc).resolve_left List.not_mem_nil

end ClientScribe.Text
