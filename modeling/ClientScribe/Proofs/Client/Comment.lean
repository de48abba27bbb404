import ClientScribe.Client.Comment
import Mathlib.Data.List.Chain

/-!
Doc comments are closed by their last line only.  A star in front of a slash is what closes a
comment; neither the guarded text nor the margin in front of its lines nor trimming them puts one
there.
-/

namespace ClientScribe.Client

open Text (isBlank trimEnd lines)

/-- No star stands in front of a slash. -/
def IsOpen (s : List Char) : Prop := s.IsChain fun c d => ¬(c = '*' ∧ d = '/')

instance (s : List Char) : Decidable (IsOpen s) := inferInstanceAs (Decidable (List.IsChain _ s))

theorem isOpen_append {s t : List Char} (hs : IsOpen s) (ht : IsOpen t)
    (hmeet : s.getLast? ≠ some '*' ∨ t.head? ≠ some '/') : IsOpen (s ++ t) := by
  refine List.isChain_append.2 ⟨hs, ht, ?_⟩
  rintro c hc d hd ⟨rfl, rfl⟩
  exact hmeet.elim (fun h => h hc) (fun h => h hd)

/-- An indent of spaces. -/
def spaces (n : Nat) : String := String.ofList (List.replicate n ' ')

theorem isOpen_spaces_append (n : Nat) {s : List Char} (hs : IsOpen s) :
    IsOpen ((spaces n).toList ++ s) := by
  rw [spaces, String.toList_ofList]
  apply isOpen_append (List.isChain_replicate_of_rel n (by decide)) hs
  left
  simp [List.getLast?_replicate]

/-! ### The guarded text -/

/-- Guarding keeps the first character. -/
theorem head?_guardClose (s : List Char) : (guardClose s).head? = s.head? := by
  fun_cases guardClose s <;> rfl

theorem isOpen_guardClose (s : List Char) : IsOpen (guardClose s) := by
  fun_induction guardClose s with
  | case1 => exact List.isChain_nil
  | case2 s ih =>
    have hslash : IsOpen ('/' :: guardClose s) := List.isChain_cons.2 ⟨by simp, ih⟩
    exact List.isChain_cons_cons.2 ⟨by decide, List.isChain_cons_cons.2 ⟨by decide, hslash⟩⟩
  | case3 s c hpair ih =>
    refine List.isChain_cons.2 ⟨?_, ih⟩
    rintro d hd ⟨rfl, rfl⟩
    rw [head?_guardClose] at hd
    obtain ⟨rest, hrest⟩ := List.head?_eq_some_iff.1 hd
    exact hpair rest rfl hrest

theorem count_dashBullets (s : List Char) : (dashBullets s).count '\n' = s.count '\n' := by
  fun_induction dashBullets s with
  | case1 => rfl
  | case2 s ih => simpa using ih
  | case3 s c _ ih => simp [List.count_cons, ih]

theorem count_guardClose (s : List Char) : (guardClose s).count '\n' = s.count '\n' := by
  fun_induction guardClose s with
  | case1 => rfl
  | case2 s ih => simpa using ih
  | case3 s c _ ih => simp [List.count_cons, ih]

/-! ### The lines of the comment -/

/-- The lines between the first and the last. -/
def innerLines (indent description : String) : List (List Char) :=
  (lines (guardClose (dashBullets description.toList))).map (commentLine indent.toList)

theorem length_innerLines (indent description : String) :
    (innerLines indent description).length = description.toList.count '\n' + 1 := by
  rw [innerLines, List.length_map, lines, Text.length_splitOn, count_guardClose, count_dashBullets]

/-- The margin stays in front of every line. -/
theorem margin_prefix_commentLine (indent line : List Char) :
    indent ++ [' ', '*'] <+: commentLine indent line := by
  have hmargin : trimEnd (indent ++ [' ', '*']) = indent ++ [' ', '*'] := by
    have hstar : isBlank '*' = false := by decide
    simpa using Text.trimEnd_append_of_not_blank (s := indent ++ [' ']) hstar
  have hsplit : indent ++ [' ', '*', ' '] ++ line = (indent ++ [' ', '*']) ++ ' ' :: line := by simp
  rw [commentLine, hsplit, Text.trimEnd_append]
  split
  · exact ⟨[], by rw [hmargin, List.append_nil]⟩
  · exact List.prefix_append _ _

/-- A comment is written line by line. -/
theorem toList_comment (indent description : String) :
    (comment indent description).toList =
      ((indent.toList ++ "/**".toList) :: innerLines indent description
        ++ [indent.toList ++ " */".toList]).flatMap (· ++ ['\n']) := by
  simp [comment, innerLines, List.flatMap_map]

/-- Lines that are ended one after another are the lines of the text, with an empty one behind. -/
theorem lines_flatMap {ls : List (List Char)} (h : ∀ l ∈ ls, '\n' ∉ l) :
    lines (ls.flatMap (· ++ ['\n'])) = ls ++ [[]] := by
  induction ls with
  | nil => rfl
  | cons l ls ih =>
    obtain ⟨hl, hls⟩ := List.forall_mem_cons.1 h
    rw [List.flatMap_cons, List.append_assoc, List.singleton_append, lines, Text.splitOn_append hl,
      ← lines, ih hls, List.cons_append]

theorem isOpen_flatMap {ls : List (List Char)} (h : ∀ l ∈ ls, IsOpen l) :
    IsOpen (ls.flatMap (· ++ ['\n'])) := by
  induction ls with
  | nil => exact List.isChain_nil
  | cons l ls ih =>
    obtain ⟨hl, hls⟩ := List.forall_mem_cons.1 h
    rw [List.flatMap_cons]
    apply isOpen_append _ (ih hls) (.inl (by simp))
    exact isOpen_append hl (List.isChain_singleton _) (.inr (by simp))

/-- Where nothing closes the text in front of the last star, its slash alone closes it. -/
theorem closes_iff {body behind : List Char} (h : IsOpen (body ++ ['*'])) :
    (∃ before, body ++ ['*', '/', '\n'] = before ++ ['*', '/'] ++ behind) ↔ behind = ['\n'] := by
  constructor
  · rintro ⟨before, heq⟩
    obtain rfl | ⟨init, d, rfl⟩ := List.eq_nil_or_concat' behind
    · have hlast := congrArg List.getLast? heq
      simp at hlast
    · have hsplit : (body ++ ['*', '/']) ++ ['\n'] = (before ++ ['*', '/'] ++ init) ++ [d] := by
        simpa using heq
      obtain ⟨hinit, hd⟩ := List.append_inj' hsplit rfl
      obtain rfl | ⟨inside, e, rfl⟩ := List.eq_nil_or_concat' init
      · simpa using hd.symm
      · -- a longer rest would leave the pair in front of the last star
        have hfront : (body ++ ['*']) ++ ['/'] = (before ++ '*' :: '/' :: inside) ++ [e] := by
          simpa using hinit
        obtain ⟨hpair, -⟩ := List.append_inj' hfront rfl
        rw [hpair] at h
        exact absurd ⟨rfl, rfl⟩ (List.isChain_iff_forall_rel_of_append_cons_cons.1 h rfl)
  · rintro rfl
    exact ⟨body, by simp⟩

theorem newline_not_mem_spaces (n : Nat) : '\n' ∉ (spaces n).toList := by
  simp [spaces, List.mem_replicate]

theorem newline_not_mem_innerLines {n : Nat} {description : String} :
    ∀ line ∈ innerLines (spaces n) description, '\n' ∉ line := by
  intro line hline hmem
  obtain ⟨text, htext, rfl⟩ := List.mem_map.1 hline
  have hmem := (Text.trimEnd_sublist _).mem hmem
  simp only [List.mem_append] at hmem
  rcases hmem with (hindent | hstar) | hrest
  · exact newline_not_mem_spaces n hindent
  · exact absurd hstar (by decide)
  · exact Text.not_mem_of_mem_splitOn htext hrest

theorem isOpen_innerLines {n : Nat} {description : String} :
    ∀ line ∈ innerLines (spaces n) description, IsOpen line := by
  intro line hline
  obtain ⟨text, htext, rfl⟩ := List.mem_map.1 hline
  obtain ⟨before, behind, hparts⟩ := Text.infix_of_mem_splitOn htext
  have hwhole : IsOpen (before ++ text ++ behind) := hparts ▸ isOpen_guardClose _
  have htext : IsOpen text := hwhole.left_of_append.right_of_append
  have hmargin : IsOpen ((spaces n).toList ++ [' ', '*', ' ']) := isOpen_spaces_append n (by decide)
  obtain ⟨blanks, hblanks⟩ := Text.trimEnd_isPrefix ((spaces n).toList ++ [' ', '*', ' '] ++ text)
  have huntrimmed := isOpen_append hmargin htext (.inl (by simp))
  rw [← hblanks] at huntrimmed
  exact huntrimmed.left_of_append

/-- The doc comment of any description opens in its first line and is closed by its last line only;
the lines between them have the margin and do not end in a blank, and there is one for each line of
the description. -/
theorem comment_closed_last (n : Nat) (description : String) :
    ∃ inner : List (List Char),
      lines (comment (spaces n) description).toList =
        ((spaces n).toList ++ "/**".toList) :: inner ++ [(spaces n).toList ++ " */".toList, []]
      ∧ inner.length = description.toList.count '\n' + 1
      ∧ (∀ line ∈ inner, (spaces n).toList ++ " *".toList <+: line
        ∧ ∀ c ∈ line.getLast?, isBlank c = false)
      ∧ ∀ behind, (∃ before, (comment (spaces n) description).toList =
          before ++ "*/".toList ++ behind) ↔ behind = ['\n'] := by
  refine ⟨innerLines (spaces n) description, ?_, length_innerLines _ _, ?_, ?_⟩
  · have hends : ∀ mark ∈ ["/**", " */"], '\n' ∉ (spaces n).toList ++ mark.toList := by
      simp [newline_not_mem_spaces]
    rw [toList_comment, lines_flatMap]
    · simp
    · intro line hline
      simp only [List.cons_append, List.mem_cons, List.mem_append, List.not_mem_nil, or_false]
        at hline
      rcases hline with rfl | hinner | rfl
      · exact hends "/**" (by simp)
      · exact newline_not_mem_innerLines line hinner
      · exact hends " */" (by simp)
  · intro line hline
    obtain ⟨text, -, rfl⟩ := List.mem_map.1 hline
    exact ⟨margin_prefix_commentLine _ _, Text.not_blank_of_mem_getLast?_trimEnd⟩
  · intro behind
    have hfirst : IsOpen ((spaces n).toList ++ "/**".toList) := isOpen_spaces_append n (by decide)
    have hlast : IsOpen ((spaces n).toList ++ " *".toList) := isOpen_spaces_append n (by decide)
    have hlines : IsOpen ((((spaces n).toList ++ "/**".toList)
        :: innerLines (spaces n) description).flatMap (· ++ ['\n'])) :=
      isOpen_flatMap (List.forall_mem_cons.2 ⟨hfirst, isOpen_innerLines⟩)
    have hmeet : ((spaces n).toList ++ " *".toList).head? ≠ some '/' := by
      cases n <;> simp [spaces, List.replicate_succ]
    have hopen := isOpen_append hlines hlast (.inr hmeet)
    have hstar : " *".toList = [' '] ++ ['*'] := rfl
    rw [hstar, ← List.append_assoc, ← List.append_assoc] at hopen
    rw [← closes_iff hopen, toList_comment]
    simp

end ClientScribe.Client
