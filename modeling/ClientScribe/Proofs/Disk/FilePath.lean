import ClientScribe.Disk.FilePath
import ClientScribe.Proofs.Path

/-!
Paths and how they are written.  A path that was read from a text is read again from its own text,
so a path can be handed on as a text.
-/

namespace ClientScribe.FilePath

/-- A path as it is read: a known root in front of segments that name something. -/
structure IsPlain (p : FilePath) : Prop where
  root : p.root ∈ ["", "/", "//"]
  noSlash : ∀ s ∈ p.segments, '/' ∉ s.toList
  segments : ∀ s ∈ p.segments, isSegment s.toList = true

theorem isPlain_ofText (path : String) : (ofText path).IsPlain := by
  refine ⟨?_, ?_, ?_⟩
  · rw [ofText, rootOf]
    split <;> simp
  · intro s hs
    obtain ⟨piece, hpiece, rfl⟩ := List.mem_map.1 hs
    rw [String.toList_ofList]
    exact Text.not_mem_of_mem_splitOn (List.mem_filter.1 hpiece).1
  · intro s hs
    obtain ⟨piece, hpiece, rfl⟩ := List.mem_map.1 hs
    rw [String.toList_ofList]
    exact (List.mem_filter.1 hpiece).2

theorem IsPlain.join {a b : FilePath} (ha : a.IsPlain) (hb : b.IsPlain) : (a.join b).IsPlain := by
  rw [FilePath.join]
  split
  · refine ⟨ha.root, ?_, ?_⟩
    · intro s hs
      exact (List.mem_append.1 hs).elim (ha.noSlash s) (hb.noSlash s)
    · intro s hs
      exact (List.mem_append.1 hs).elim (ha.segments s) (hb.segments s)
  · exact hb

/-- A path without slashes in front has no root; the slashes of a root are all there are. -/
theorem rootOf_append {root : String} (hroot : root ∈ ["", "/", "//"]) {rest : List Char}
    (hrest : rest.head? ≠ some '/') : rootOf (root.toList ++ rest) = root := by
  have hnone : rest.takeWhile (· = '/') = [] := by
    cases rest with
    | nil => rfl
    | cons c rest =>
      rw [List.takeWhile_cons_of_neg]
      simpa using hrest
  simp only [List.mem_cons, List.not_mem_nil, or_false] at hroot
  rcases hroot with rfl | rfl | rfl <;> simp [rootOf, hnone]

theorem filter_splitOn_append {root : String} (hroot : root ∈ ["", "/", "//"]) (rest : List Char) :
    (Text.splitOn '/' (root.toList ++ rest)).filter isSegment =
      (Text.splitOn '/' rest).filter isSegment := by
  simp only [List.mem_cons, List.not_mem_nil, or_false] at hroot
  rcases hroot with rfl | rfl | rfl <;> simp [Text.splitOn, isSegment]

/-- A text that starts with a segment starts with no slash. -/
theorem head?_intercalate_ne_slash {piece : List Char} (hsegment : isSegment piece = true)
    (hslash : '/' ∉ piece) (pieces : List (List Char)) :
    (['/'].intercalate (piece :: pieces)).head? ≠ some '/' := by
  obtain ⟨c, cs, rfl⟩ : ∃ c cs, piece = c :: cs := by
    refine List.exists_cons_of_ne_nil ?_
    rintro rfl
    exact absurd hsegment (by decide)
  have hc : c ≠ '/' := (List.ne_of_not_mem_cons hslash).symm
  cases pieces <;> simp [hc]

/-- A plain path is read back from its text. -/
theorem IsPlain.ofText_text {p : FilePath} (h : p.IsPlain) : ofText p.text = p := by
  obtain ⟨root, segments⟩ := p
  have hroot : root ∈ ["", "/", "//"] := h.root
  cases segments with
  | nil =>
    simp only [List.mem_cons, List.not_mem_nil, or_false] at hroot
    rcases hroot with rfl | rfl | rfl <;> decide
  | cons s segments =>
    have htext : (text ⟨root, s :: segments⟩).toList =
        root.toList ++ ['/'].intercalate ((s :: segments).map String.toList) := by
      simp [text, String.toList_intercalate]
    have hpieces : ∀ piece ∈ (s :: segments).map String.toList, '/' ∉ piece :=
      List.forall_mem_map.2 h.noSlash
    have hhead : (['/'].intercalate ((s :: segments).map String.toList)).head? ≠ some '/' :=
      head?_intercalate_ne_slash (h.segments s List.mem_cons_self) (h.noSlash s List.mem_cons_self)
        (segments.map String.toList)
    have hkept : ((s :: segments).map String.toList).filter isSegment =
        (s :: segments).map String.toList :=
      List.filter_eq_self.2 (List.forall_mem_map.2 h.segments)
    rw [ofText, htext, rootOf_append hroot hhead, filter_splitOn_append hroot,
      Path.splitOn_intercalate hpieces (by simp), hkept]
    simp

end ClientScribe.FilePath
