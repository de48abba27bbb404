/-!
Finding a fixed text inside another, and cutting at it.  Texts are lists of characters; occurrences
are taken from the left and do not overlap.
-/

namespace ClientScribe.Text

/-- Whether `needle` occurs in the text. -/
def has (needle : List Char) : List Char → Bool
  | [] => needle.isEmpty
  | c :: s => needle.isPrefixOf (c :: s) || has needle s

/-- What follows the first occurrence of `needle`. -/
def after? (needle : List Char) : List Char → Option (List Char)
  | [] => if needle.isEmpty then some [] else none
  | c :: s => if needle.isPrefixOf (c :: s) then some ((c :: s).drop needle.length)
    else after? needle s

/-- What precedes the first occurrence of `needle`; `seen` is what was passed, last first. -/
def beforeFrom? (needle seen : List Char) : List Char → Option (List Char)
  | [] => if needle.isEmpty then some seen.reverse else none
  | c :: s => if needle.isPrefixOf (c :: s) then some seen.reverse
    else beforeFrom? needle (c :: seen) s

/-- What precedes the first occurrence of `needle`. -/
def before? (needle s : List Char) : Option (List Char) := beforeFrom? needle [] s

/-- The first answer of `f`, asked at every place of the text from left to right. -/
def search {α : Type} (f : List Char → Option α) : List Char → Option α
  | [] => f []
  | c :: s =>
    match f (c :: s) with
    | some a => some a
    | none => search f s

/-- The text behind `start`, if it begins so. -/
def strip? (start s : List Char) : Option (List Char) :=
  if start.isPrefixOf s then some (s.drop start.length) else none

/-- The longest non-empty run of characters of a class, and the text behind it. -/
def run? (p : Char → Bool) (s : List Char) : Option (List Char × List Char) :=
  match s.takeWhile p with
  | [] => none
  | r => some (r, s.dropWhile p)

/-- The text cut into the answers of `f` and the single characters between them.  The search goes on
behind what an answer took; an answer that takes nothing does not count. -/
def segments {α : Type} (f : List Char → Option (α × List Char)) : List Char → List (Char ⊕ α)
  | [] => []
  | c :: s =>
    match f (c :: s) with
    | some (a, rest) => if rest.length ≤ s.length then .inr a :: segments f rest
      else .inl c :: segments f s
    | none => .inl c :: segments f s
termination_by s => s.length

/-- The answers of `f`, from left to right and without overlap. -/
def findAll {α : Type} (f : List Char → Option (α × List Char)) (s : List Char) : List α :=
  (segments f s).filterMap fun
    | .inl _ => none
    | .inr a => some a

/-- The text with every answer of `f` replaced. -/
def replaceAll {α : Type} (f : List Char → Option (α × List Char)) (new : α → List Char)
    (s : List Char) : List Char :=
  (segments f s).flatMap fun
    | .inl c => [c]
    | .inr a => new a

/-- The pieces between the occurrences of one character, first to last. -/
def splitOn (sep : Char) : List Char → List (List Char)
  | [] => [[]]
  | c :: s =>
    if c = sep then [] :: splitOn sep s
    else match splitOn sep s with
      | [] => [[c]]
      | p :: ps => (c :: p) :: ps

/-- The lines of a text; a text that ends in a line break has an empty last line. -/
def lines (s : List Char) : List (List Char) := splitOn '\n' s

/-- The pieces between the occurrences of `sep`.  `skip` characters of an occurrence are still to
pass, and `piece` is the piece under way, last character first. -/
def piecesFrom (sep : List Char) (skip : Nat) (piece : List Char) :
    List Char → List (List Char)
  | [] => [piece.reverse]
  | c :: s =>
    match skip with
    | skip + 1 => piecesFrom sep skip piece s
    | 0 => if sep.isPrefixOf (c :: s) then piece.reverse :: piecesFrom sep (sep.length - 1) [] s
      else piecesFrom sep 0 (c :: piece) s

/-- The pieces between the occurrences of a non-empty `sep`. -/
def pieces (sep s : List Char) : List (List Char) := piecesFrom sep 0 [] s

/-- How often a non-empty `needle` occurs. -/
def count (needle s : List Char) : Nat := (pieces needle s).length - 1

/-- The text without `ending`, if it ends so. -/
def dropEnd? (ending s : List Char) : Option (List Char) :=
  if ending.isSuffixOf s then some (s.take (s.length - ending.length)) else none

/-- The text without `marker` at its end; a line break behind the marker stays. -/
def dropMarker (marker s : List Char) : List Char :=
  match dropEnd? marker s, dropEnd? (marker ++ ['\n']) s with
  | some r, _ => r
  | none, some r => r ++ ['\n']
  | none, none => s

/-- What a search found is an answer at some place. -/
theorem exists_of_search_eq_some {α : Type} {f : List Char → Option α} {s : List Char} {a : α}
    (h : search f s = some a) : ∃ t, f t = some a := by
  induction s with
  | nil => exact ⟨[], h⟩
  | cons c s ih =>
    rw [search] at h
    split at h
    · exact ⟨c :: s, Option.some.inj h ▸ ‹_›⟩
    · exact ih h

theorem segments_cons_of_none {α : Type} {f : List Char → Option (α × List Char)} {c : Char}
    {s : List Char} (h : f (c :: s) = none) : segments f (c :: s) = .inl c :: segments f s := by
  rw [segments, h]

theorem segments_cons_of_some {α : Type} {f : List Char → Option (α × List Char)} {c : Char}
    {s rest : List Char} {a : α} (h : f (c :: s) = some (a, rest))
    (hrest : rest.length ≤ s.length) : segments f (c :: s) = .inr a :: segments f rest := by
  rw [segments, h]
  exact if_pos hrest

/-- Where nothing is found all characters stand for themselves. -/
theorem segments_eq_map {α : Type} {f : List Char → Option (α × List Char)} {s : List Char}
    (h : ∀ t, t <:+ s → f t = none) : segments f s = s.map .inl := by
  induction s with
  | nil => rw [segments, List.map_nil]
  | cons c s ih =>
    rw [segments_cons_of_none (h _ List.suffix_rfl), List.map_cons,
      ih fun t ht => h t (ht.trans (List.suffix_cons c s))]

theorem findAll_nil {α : Type} (f : List Char → Option (α × List Char)) : findAll f [] = [] := by
  rw [findAll, segments, List.filterMap_nil]

theorem findAll_cons_of_none {α : Type} {f : List Char → Option (α × List Char)} {c : Char}
    {s : List Char} (h : f (c :: s) = none) : findAll f (c :: s) = findAll f s := by
  rw [findAll, segments_cons_of_none h]
  rfl

theorem findAll_cons_of_some {α : Type} {f : List Char → Option (α × List Char)} {c : Char}
    {s rest : List Char} {a : α} (h : f (c :: s) = some (a, rest))
    (hrest : rest.length ≤ s.length) : findAll f (c :: s) = a :: findAll f rest := by
  rw [findAll, segments_cons_of_some h hrest]
  rfl

theorem findAll_eq_nil {α : Type} {f : List Char → Option (α × List Char)} {s : List Char}
    (h : ∀ t, t <:+ s → f t = none) : findAll f s = [] := by
  rw [findAll, segments_eq_map h, List.filterMap_map]
  exact List.filterMap_eq_nil_iff.2 fun _ _ => rfl

/-- What is among the segments as an answer is one at some place. -/
theorem exists_of_inr_mem_segments {α : Type} {f : List Char → Option (α × List Char)}
    {s : List Char} {a : α} (h : .inr a ∈ segments f s) : ∃ t rest, f t = some (a, rest) := by
  induction s using segments.induct f with
  | case1 => simp [segments] at h
  | case2 c s b rest hf hshorter ih =>
    rw [segments, hf] at h
    simp only [if_pos hshorter, List.mem_cons, Sum.inr.injEq] at h
    rcases h with rfl | h
    · exact ⟨c :: s, rest, hf⟩
    · exact ih h
  | case3 c s b rest hf hlonger ih =>
    rw [segments, hf] at h
    simp only [if_neg hlonger, List.mem_cons, reduceCtorEq, false_or] at h
    exact ih h
  | case4 c s hf ih =>
    rw [segments, hf] at h
    simp only [List.mem_cons, reduceCtorEq, false_or] at h
    exact ih h

theorem exists_of_mem_findAll {α : Type} {f : List Char → Option (α × List Char)} {s : List Char}
    {a : α} (h : a ∈ findAll f s) : ∃ t rest, f t = some (a, rest) := by
  obtain ⟨part, hpart, ha⟩ := List.mem_filterMap.1 h
  cases part with
  | inl c => exact absurd ha (by simp)
  | inr b =>
    obtain rfl := Option.some.inj ha
    exact exists_of_inr_mem_segments hpart

/-- What is stripped off stood at the start. -/
theorem eq_append_of_strip? {start s rest : List Char} (h : strip? start s = some rest) :
    s = start ++ rest := by
  rw [strip?] at h
  split at h
  · rename_i hprefix
    obtain ⟨t, rfl⟩ := List.isPrefixOf_iff_prefix.1 hprefix
    rw [← Option.some.inj h, List.drop_left]
  · exact absurd h (by simp)

theorem strip?_append (start rest : List Char) : strip? start (start ++ rest) = some rest := by
  rw [strip?, if_pos (List.isPrefixOf_iff_prefix.2 (List.prefix_append start rest)),
    List.drop_left]

/-- A run is not empty, holds characters of its class only, and stands at the start. -/
theorem of_run?_eq_some {p : Char → Bool} {s run rest : List Char}
    (h : run? p s = some (run, rest)) : run ≠ [] ∧ (∀ c ∈ run, p c = true) ∧ s = run ++ rest := by
  rw [run?] at h
  split at h
  · exact absurd h (by simp)
  · rename_i hrun
    obtain ⟨rfl, rfl⟩ := Prod.mk.inj (Option.some.inj h)
    exact ⟨hrun, List.all_eq_true.1 List.all_takeWhile, List.takeWhile_append_dropWhile.symm⟩

/-- Where a class ends, what is taken of it and what is dropped come apart. -/
theorem dropWhile_append_of_head? {p : Char → Bool} {run rest : List Char}
    (hrun : ∀ c ∈ run, p c = true) (hrest : ∀ c ∈ rest.head?, p c = false) :
    (run ++ rest).dropWhile p = rest ∧ (run ++ rest).takeWhile p = run := by
  rw [List.dropWhile_append_of_pos hrun, List.takeWhile_append_of_pos hrun]
  cases rest with
  | nil => simp
  | cons c rest => simp [hrest c rfl]

theorem run?_append {p : Char → Bool} {run rest : List Char} (hne : run ≠ [])
    (hrun : ∀ c ∈ run, p c = true) (hrest : ∀ c ∈ rest.head?, p c = false) :
    run? p (run ++ rest) = some (run, rest) := by
  obtain ⟨hdrop, htake⟩ := dropWhile_append_of_head? hrun hrest
  rw [run?, hdrop, htake]
  split
  · exact absurd rfl hne
  · rfl

/-- A run goes as far as its class. -/
theorem run?_eq_some_iff {p : Char → Bool} {s run rest : List Char} :
    run? p s = some (run, rest) ↔ run ≠ [] ∧ (∀ c ∈ run, p c = true)
      ∧ (∀ c ∈ rest.head?, p c = false) ∧ s = run ++ rest := by
  constructor
  · intro h
    obtain ⟨hne, hrun, hs⟩ := of_run?_eq_some h
    refine ⟨hne, hrun, ?_, hs⟩
    rw [run?] at h
    split at h
    · exact absurd h (by simp)
    · obtain ⟨-, rfl⟩ := Prod.mk.inj (Option.some.inj h)
      intro c hc
      have hnot := List.head?_dropWhile_not p s
      rwa [Option.mem_def.1 hc] at hnot
  · rintro ⟨hne, hrun, hrest, rfl⟩
    exact run?_append hne hrun hrest

theorem splitOn_ne_nil (sep : Char) (s : List Char) : splitOn sep s ≠ [] := by
  cases s with
  | nil => simp [splitOn]
  | cons c s =>
    rw [splitOn]
    split
    · simp
    · split <;> simp

/-- No piece holds the character between the pieces. -/
theorem not_mem_of_mem_splitOn {sep : Char} {s p : List Char} (h : p ∈ splitOn sep s) :
    sep ∉ p := by
  induction s generalizing p with
  | nil =>
    rw [splitOn, List.mem_singleton] at h
    simp [h]
  | cons c s ih =>
    rw [splitOn] at h
    split at h
    · rcases List.mem_cons.1 h with rfl | h
      · simp
      · exact ih h
    · rename_i hc
      split at h
      · rw [List.mem_singleton] at h
        simpa [h] using Ne.symm hc
      · rename_i q qs hqs
        rw [hqs] at ih
        rcases List.mem_cons.1 h with rfl | h
        · simpa [Ne.symm hc] using ih List.mem_cons_self
        · exact ih (List.mem_cons_of_mem q h)

/-- Every other character is in some piece. -/
theorem exists_mem_splitOn {sep c : Char} {s : List Char} (hc : c ∈ s) (hsep : c ≠ sep) :
    ∃ p ∈ splitOn sep s, c ∈ p := by
  induction s with
  | nil => exact absurd hc List.not_mem_nil
  | cons d s ih =>
    rw [splitOn]
    split
    · rename_i hd
      obtain ⟨p, hp, hcp⟩ := ih ((List.mem_cons.1 hc).resolve_left fun h => hsep (h.trans hd))
      exact ⟨p, List.mem_cons_of_mem _ hp, hcp⟩
    · split
      · rename_i hnil
        exact absurd hnil (splitOn_ne_nil sep s)
      · rename_i q qs hqs
        rw [hqs] at ih
        rcases List.mem_cons.1 hc with rfl | hc
        · exact ⟨_, List.mem_cons_self, List.mem_cons_self⟩
        · obtain ⟨p, hp, hcp⟩ := ih hc
          rcases List.mem_cons.1 hp with rfl | hp
          · exact ⟨_, List.mem_cons_self, List.mem_cons_of_mem d hcp⟩
          · exact ⟨p, List.mem_cons_of_mem _ hp, hcp⟩

/-- The pieces are parts of the text, the first one its beginning. -/
theorem splitOn_parts {sep : Char} {s p : List Char} {ps : List (List Char)}
    (h : splitOn sep s = p :: ps) : p <+: s ∧ ∀ q ∈ ps, q <:+: s := by
  induction s generalizing p ps with
  | nil =>
    obtain ⟨rfl, rfl⟩ := List.cons.inj h
    exact ⟨List.prefix_rfl, fun q hq => absurd hq List.not_mem_nil⟩
  | cons c s ih =>
    obtain ⟨q, qs, hq⟩ := List.exists_cons_of_ne_nil (splitOn_ne_nil sep s)
    obtain ⟨hfirst, hothers⟩ := ih hq
    have hlater : ∀ r ∈ qs, r <:+: c :: s := fun r hr => List.infix_cons (hothers r hr)
    by_cases hc : c = sep
    · rw [splitOn, if_pos hc, hq] at h
      obtain ⟨rfl, rfl⟩ := List.cons.inj h
      exact ⟨List.nil_prefix, List.forall_mem_cons.2 ⟨List.infix_cons hfirst.isInfix, hlater⟩⟩
    · rw [splitOn, if_neg hc, hq] at h
      obtain ⟨rfl, rfl⟩ := List.cons.inj h
      exact ⟨List.cons_prefix_cons.2 ⟨rfl, hfirst⟩, hlater⟩

theorem infix_of_mem_splitOn {sep : Char} {s p : List Char} (h : p ∈ splitOn sep s) :
    p <:+: s := by
  obtain ⟨q, qs, hq⟩ := List.exists_cons_of_ne_nil (splitOn_ne_nil sep s)
  obtain ⟨hfirst, hothers⟩ := splitOn_parts hq
  rw [hq] at h
  exact (List.mem_cons.1 h).elim (fun heq => heq ▸ hfirst.isInfix) (hothers p)

/-- The first occurrence ends the first piece. -/
theorem splitOn_append {sep : Char} {s : List Char} (h : sep ∉ s) (t : List Char) :
    splitOn sep (s ++ sep :: t) = s :: splitOn sep t := by
  induction s with
  | nil => rw [List.nil_append, splitOn, if_pos rfl]
  | cons c s ih =>
    simp only [List.mem_cons, not_or] at h
    rw [List.cons_append, splitOn, if_neg (Ne.symm h.1), ih h.2]

/-- A text without the character is one piece. -/
theorem splitOn_of_not_mem {sep : Char} {s : List Char} (h : sep ∉ s) : splitOn sep s = [s] := by
  induction s with
  | nil => rfl
  | cons c s ih =>
    simp only [List.mem_cons, not_or] at h
    rw [splitOn, if_neg (Ne.symm h.1), ih h.2]

theorem length_splitOn (sep : Char) (s : List Char) :
    (splitOn sep s).length = s.count sep + 1 := by
  induction s with
  | nil => rfl
  | cons c s ih =>
    by_cases hc : c = sep
    · rw [splitOn, if_pos hc, List.length_cons, ih, hc, List.count_cons_self]
    · rw [splitOn, if_neg hc, List.count_cons_of_ne hc, ← ih]
      obtain ⟨p, ps, hp⟩ := List.exists_cons_of_ne_nil (splitOn_ne_nil sep s)
      rw [hp]
      rfl

theorem pieces_ne_nil (sep s : List Char) : pieces sep s ≠ [] := by
  have hfrom (skip : Nat) (piece : List Char) : piecesFrom sep skip piece s ≠ [] := by
    induction s generalizing skip piece with
    | nil => simp [piecesFrom]
    | cons c s ih =>
      cases skip with
      | succ skip => exact ih skip piece
      | zero =>
        rw [piecesFrom]
        split
        · exact List.cons_ne_nil _ _
        · exact ih 0 _
  exact hfrom 0 []

theorem dropEnd?_append (ending s : List Char) : dropEnd? ending (s ++ ending) = some s := by
  rw [dropEnd?, if_pos (List.isSuffixOf_iff_suffix.2 (List.suffix_append s ending)),
    List.length_append, Nat.add_sub_cancel, List.take_left]

theorem dropMarker_append (marker s : List Char) : dropMarker marker (s ++ marker) = s := by
  rw [dropMarker, dropEnd?_append]

/-- Without its marker a text has no new characters but a line break. -/
theorem mem_of_mem_dropMarker {marker s : List Char} {c : Char} (h : c ∈ dropMarker marker s) :
    c ∈ s ∨ c = '\n' := by
  have hdrop {ending rest : List Char} (h : dropEnd? ending s = some rest) (hc : c ∈ rest) :
      c ∈ s := by
    rw [dropEnd?] at h
    split at h
    · rw [← Option.some.inj h] at hc
      exact List.mem_of_mem_take hc
    · exact absurd h (by simp)
  rw [dropMarker] at h
  split at h
  · exact .inl (hdrop ‹_› h)
  · rename_i hline
    rcases List.mem_append.1 h with h | h
    · exact .inl (hdrop hline h)
    · exact .inr (List.mem_singleton.1 h)
  · exact .inl h

/-- Pieces are joined by a separator behind each but the last. -/
theorem intercalate_concat (sep : List Char) (ps : List (List Char)) (p : List Char) :
    sep.intercalate (ps ++ [p]) = ps.flatMap (· ++ sep) ++ p := by
  induction ps with
  | nil => exact List.intercalate_singleton
  | cons q ps ih =>
    obtain ⟨r, rs, hr⟩ : ∃ r rs, ps ++ [p] = r :: rs := List.exists_cons_of_ne_nil (by simp)
    rw [hr] at ih
    rw [List.cons_append, hr, List.intercalate_cons_cons, ih, List.flatMap_cons]
    simp

/-- Joining the pieces again restores the text. -/
theorem intercalate_splitOn (sep : Char) (s : List Char) :
    [sep].intercalate (splitOn sep s) = s := by
  induction s with
  | nil => rfl
  | cons c s ih =>
    obtain ⟨p, ps, hp⟩ := List.exists_cons_of_ne_nil (splitOn_ne_nil sep s)
    rw [hp] at ih
    by_cases hc : c = sep
    · subst hc
      rw [splitOn, if_pos rfl, hp]
      simpa [List.intercalate, List.intersperse] using ih
    · rw [splitOn, if_neg hc, hp]
      cases ps <;> simp_all [List.intercalate, List.intersperse]

end ClientScribe.Text
