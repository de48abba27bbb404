import ClientScribe.Docs.Table

/-!
Which tables are refused.  Columns may be counted from the right, so a key can name a cell to the
left of the table; nothing else in a table is refused.
-/

namespace ClientScribe.Table

/-- A key counts its column further from the right than a table has columns. -/
def IsOutside (key : String) : Prop := ∃ r c, numbers? key = some (r, c) ∧ c < -3

theorem ofNumber_eq_ok_iff {c : Int} :
    (∃ column, Column.ofNumber c = .ok column) ↔ ¬ c < -3 := by
  constructor
  · rintro ⟨column, h⟩ hc
    rw [Column.ofNumber, if_neg (by omega), if_neg (by simp; omega), if_neg (by simp; omega),
      if_neg (by simp; omega)] at h
    exact absurd h (by simp)
  · intro hc
    rw [Column.ofNumber]
    split
    · exact ⟨_, rfl⟩
    · split
      · exact ⟨_, rfl⟩
      · split
        · exact ⟨_, rfl⟩
        · split
          · exact ⟨_, rfl⟩
          · rename_i hbeyond hname htype hdescription
            simp only [Bool.or_eq_true, decide_eq_true_eq] at hname htype hdescription
            omega

/-- An entry is taken in unless its key names a cell outside. -/
theorem exists_enter_iff {rows : Rows} {entry : String × Json} :
    (∃ next, rows.enter entry = .ok next) ↔ ¬ IsOutside entry.1 := by
  rw [Rows.enter, IsOutside]
  cases hkey : numbers? entry.1 with
  | none => simp
  | some cell =>
    obtain ⟨r, c⟩ := cell
    have hcolumn := ofNumber_eq_ok_iff (c := c)
    cases hnumber : Column.ofNumber c with
    | error fault => simpa [hnumber] using hcolumn
    | ok column =>
      have hc : ¬ c < -3 := hcolumn.1 ⟨column, hnumber⟩
      cases column <;> simpa [hnumber] using hc

/-- A table is read unless one of its keys names a cell outside. -/
theorem exists_fields_iff {entries : Json.Members} :
    (∃ fs, fields entries = .ok fs) ↔ ∀ entry ∈ entries, ¬ IsOutside entry.1 := by
  have hrows (start : Rows) : (∃ rs, entries.foldlM Rows.enter start = .ok rs) ↔
      ∀ entry ∈ entries, ¬ IsOutside entry.1 := by
    induction entries generalizing start with
    | nil => simp [pure, Except.pure]
    | cons entry entries ih =>
      rw [List.foldlM_cons, List.forall_mem_cons, ← @exists_enter_iff start entry]
      cases hentry : start.enter entry with
      | error fault => simp [bind, Except.bind]
      | ok next =>
        simpa [bind, Except.bind] using ih next
  rw [← hrows [], fields, rows]
  cases entries.foldlM Rows.enter [] <;> simp [Except.map]

end ClientScribe.Table
