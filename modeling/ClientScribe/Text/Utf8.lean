/-!
Texts as bytes in UTF-8.  However a line ends in a file, it ends in a line feed once it is read.
-/

namespace ClientScribe.Text

/-- The text with carriage returns, alone or in front of a line feed, turned into line feeds. -/
def unifyLineEnds : List Char → List Char
  | '\r' :: '\n' :: s => '\n' :: unifyLineEnds s
  | c :: s => (if c = '\r' then '\n' else c) :: unifyLineEnds s
  | [] => []

/-- A text without carriage returns stays as it is. -/
theorem unifyLineEnds_of_not_mem {s : List Char} (h : '\r' ∉ s) : unifyLineEnds s = s := by
  fun_induction unifyLineEnds s with
  | case1 s ih => simp at h
  | case2 c s _ ih =>
    have hc : c ≠ '\r' := fun e => h (by simp [e])
    have hs : '\r' ∉ s := fun m => h (List.mem_cons_of_mem _ m)
    simp [hc, ih hs]
  | case3 => rfl

/-- The text of bytes that hold one. -/
def ofBytes? (bytes : ByteArray) : Option String :=
  (String.fromUTF8? bytes).map fun s => String.ofList (unifyLineEnds s.toList)

theorem fromUTF8?_toUTF8 (s : String) : String.fromUTF8? s.toUTF8 = some s := by
  have h : s.toUTF8.IsValidUTF8 := s.isValidUTF8
  simp only [String.fromUTF8?, h, dite_true]
  rfl

/-- A text without carriage returns is read back as it was written. -/
theorem ofBytes?_toUTF8 {s : String} (h : '\r' ∉ s.toList) : ofBytes? s.toUTF8 = some s := by
  rw [ofBytes?, fromUTF8?_toUTF8, Option.map_some, unifyLineEnds_of_not_mem h, String.ofList_toList]

end ClientScribe.Text
