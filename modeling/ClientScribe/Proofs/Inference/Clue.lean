import ClientScribe.Inference.Clue

/-!
What clues are made of.  Beginnings and slugs are not empty, and bullets hold word characters and
blanks of one line, so nothing of the prose around a clue is part of it.
-/

namespace ClientScribe.Clue

open Text (isWord isBlank)

theorem of_beginning?_eq_some {s word : List Char} (h : beginning? s = some word) :
    word ≠ [] ∧ ∀ c ∈ word, isWord c = true := by
  obtain ⟨t, ht⟩ := Text.exists_of_search_eq_some h
  simp only [Option.bind_eq_bind, Option.bind_eq_some_iff, Option.pure_def, Option.some.injEq] at ht
  obtain ⟨u, -, ⟨w, rest⟩, hrun, -, -, rfl⟩ := ht
  obtain ⟨hne, hword, -⟩ := Text.of_run?_eq_some hrun
  exact ⟨hne, hword⟩

theorem ne_nil_of_link?_eq_some {s slug : List Char} (h : link? s = some slug) : slug ≠ [] := by
  obtain ⟨t, ht⟩ := Text.exists_of_search_eq_some h
  simp only [Option.bind_eq_bind, Option.bind_eq_some_iff, Option.pure_def, Option.some.injEq] at ht
  obtain ⟨_, -, _, -, _, -, ⟨w, rest⟩, hrun, -, -, rfl⟩ := ht
  exact (Text.of_run?_eq_some hrun).1

theorem afterBullet?_sublist {s rest : List Char} (h : afterBullet? s = some rest) :
    rest.Sublist s := by
  rw [afterBullet?.eq_def] at h
  split at h
  · rw [← Option.some.inj h]
    exact ((List.dropWhile_sublist _).cons _).cons _
  · rw [← Option.some.inj h]
    exact (List.dropWhile_sublist _).cons _
  · rw [← Option.some.inj h]
    exact (List.dropWhile_sublist _).cons _
  · exact absurd h (by simp)

/-- The words of a bullet are part of its line. -/
theorem of_bulletWords?_eq_some {fence line words : List Char}
    (h : bulletWords? fence line = some words) :
    ∀ c ∈ words, isWordOrBlank c = true ∧ c ∈ line := by
  simp only [bulletWords?, Option.bind_eq_bind, Option.bind_eq_some_iff, Option.pure_def,
    Option.some.injEq] at h
  obtain ⟨s, hbullet, t, hfence, ⟨run, rest⟩, hrun, -, -, rfl⟩ := h
  obtain ⟨-, hclass, rfl⟩ := Text.of_run?_eq_some hrun
  rw [Text.eq_append_of_strip? hfence] at hbullet
  intro c hc
  have hc : c ∈ run := (Text.trim_sublist run).mem hc
  exact ⟨hclass c hc, (afterBullet?_sublist hbullet).mem (by simp [hc])⟩

/-- A character that the words of bullets can have. -/
def IsBulletChar (c : Char) : Prop := isWordOrBlank c = true ∧ c ≠ '\n'

theorem isBulletChar_of_mem_bullets {fence description words : List Char}
    (h : words ∈ bullets fence description) : ∀ c ∈ words, IsBulletChar c := by
  obtain ⟨line, hline, hwords⟩ := List.mem_filterMap.1 h
  intro c hc
  obtain ⟨hclass, hmem⟩ := of_bulletWords?_eq_some hwords c hc
  refine ⟨hclass, ?_⟩
  rintro rfl
  exact Text.not_mem_of_mem_splitOn hline hmem

/-- The values and the field names of a description are words of bullets. -/
theorem isBulletChar_of_mem {description words : List Char}
    (h : words ∈ values description ∨ words ∈ fieldNames description) :
    ∀ c ∈ words, IsBulletChar c := by
  rw [values, fieldNames] at h
  rcases h with h | h
  · split at h
    · exact isBulletChar_of_mem_bullets h
    · exact absurd h List.not_mem_nil
  · split at h
    · exact isBulletChar_of_mem_bullets h
    · exact absurd h List.not_mem_nil

end ClientScribe.Clue
