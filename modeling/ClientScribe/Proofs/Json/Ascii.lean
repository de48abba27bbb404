import ClientScribe.Proofs.Json.ReadBack

/-!
Written texts are in ASCII, and line feeds are all the controls in them.
-/

namespace ClientScribe.Json

/-- A character of ASCII that can be printed, or a line feed. -/
def IsAscii (c : Char) : Prop := c = '\n' ∨ ' ' ≤ c ∧ c ≤ '~'

instance (c : Char) : Decidable (IsAscii c) := inferInstanceAs (Decidable (_ ∨ _))

/-- A fixed text is checked character by character. -/
theorem isAscii_of_all {s : List Char} (h : s.all (fun c => decide (IsAscii c)) = true) :
    ∀ c ∈ s, IsAscii c :=
  fun c hc => of_decide_eq_true (List.all_eq_true.1 h c hc)

theorem isAscii_hexDigit {n : Nat} (h : n < 16) : IsAscii (Text.hexDigit n) := by
  revert n
  decide

theorem isAscii_hex (width n : Nat) : ∀ c ∈ Text.hex width n, IsAscii c := by
  induction width generalizing n with
  | zero => simp [Text.hex]
  | succ width ih =>
    rw [Text.hex, List.forall_mem_append, List.forall_mem_singleton]
    exact ⟨ih (n / 16), isAscii_hexDigit (Nat.mod_lt n (by decide))⟩

theorem isAscii_unitEscape (n : Nat) : ∀ c ∈ unitEscape n, IsAscii c := by
  rw [unitEscape, List.forall_mem_cons, List.forall_mem_cons]
  exact ⟨by decide, by decide, isAscii_hex 4 n⟩

theorem isAscii_codeEscape (c : Char) : ∀ d ∈ codeEscape c, IsAscii d := by
  rw [codeEscape]
  split
  · exact isAscii_unitEscape _
  · split
    · exact isAscii_unitEscape _
    · rw [List.forall_mem_append]
      exact ⟨isAscii_unitEscape _, isAscii_unitEscape _⟩

theorem isAscii_writtenChar (c : Char) : ∀ d ∈ writtenChar c, IsAscii d := by
  unfold writtenChar
  split
  · exact isAscii_of_all (by decide)
  · exact isAscii_of_all (by decide)
  · exact isAscii_of_all (by decide)
  · exact isAscii_of_all (by decide)
  · exact isAscii_of_all (by decide)
  · exact isAscii_of_all (by decide)
  · exact isAscii_of_all (by decide)
  · split
    · rename_i hplain
      rw [Bool.and_eq_true, decide_eq_true_eq, decide_eq_true_eq] at hplain
      rw [List.forall_mem_singleton]
      exact .inr hplain
    · exact isAscii_codeEscape c

theorem isAscii_writtenString (s : String) : ∀ c ∈ writtenString s, IsAscii c := by
  rw [writtenString, List.forall_mem_append, List.forall_mem_cons, List.forall_mem_singleton,
    List.forall_mem_flatMap]
  exact ⟨⟨by decide, fun c _ => isAscii_writtenChar c⟩, by decide⟩

theorem isAscii_gap (layout : Layout) : ∀ c ∈ layout.gap, IsAscii c := by
  cases layout with
  | compact => simp [Layout.gap]
  | indented level =>
    intro c hc
    rw [Layout.gap, lineStart, List.mem_cons, List.mem_replicate] at hc
    rcases hc with rfl | ⟨-, rfl⟩ <;> decide

theorem isAscii_colon (layout : Layout) : ∀ c ∈ layout.colon, IsAscii c := by
  cases layout <;> rw [Layout.colon] <;> exact isAscii_of_all (by decide)

theorem isAscii_writtenItems {layout : Layout} {vs : List Json}
    (h : ∀ v ∈ vs, ∀ c ∈ written layout v, IsAscii c) :
    ∀ c ∈ writtenItems layout vs, IsAscii c := by
  induction vs with
  | nil => simp [writtenItems]
  | cons v vs ih =>
    rw [List.forall_mem_cons] at h
    rw [writtenItems, List.cons_append, List.cons_append, List.forall_mem_cons,
      List.forall_mem_append, List.forall_mem_append]
    exact ⟨by decide, ⟨isAscii_gap layout, h.1⟩, ih h.2⟩

theorem isAscii_writtenMembers {layout : Layout} {ms : Members}
    (h : ∀ m ∈ ms, ∀ c ∈ written layout m.2, IsAscii c) :
    ∀ c ∈ writtenMembers layout ms, IsAscii c := by
  induction ms with
  | nil => simp [writtenMembers]
  | cons m ms ih =>
    rw [List.forall_mem_cons] at h
    rw [writtenMembers]
    simp only [List.cons_append, List.forall_mem_cons, List.forall_mem_append]
    exact ⟨by decide, ⟨⟨⟨isAscii_gap layout, isAscii_writtenString m.1⟩,
      isAscii_colon layout⟩, h.1⟩, ih h.2⟩

/-- The text of a value without numbers is in ASCII. -/
theorem Writable.isAscii_written {v : Json} (h : v.Writable) (layout : Layout) :
    ∀ c ∈ written layout v, IsAscii c := by
  induction h generalizing layout with
  | null =>
    rw [written]
    exact isAscii_of_all (by decide)
  | bool b => cases b <;> rw [written] <;> exact isAscii_of_all (by decide)
  | str s =>
    rw [written]
    exact isAscii_writtenString s
  | @arr vs _ ih =>
    cases vs with
    | nil =>
      rw [written]
      exact isAscii_of_all (by decide)
    | cons v vs =>
      have hitems : ∀ c ∈ writtenItems layout.deeper vs, IsAscii c :=
        isAscii_writtenItems fun w hw => ih w (List.mem_cons_of_mem v hw) layout.deeper
      rw [written]
      simp only [List.cons_append, List.append_assoc, List.forall_mem_cons, List.forall_mem_append]
      exact ⟨by decide, isAscii_gap _, ih v List.mem_cons_self _, hitems, isAscii_gap _, by decide,
        by simp⟩
  | @obj ms _ _ _ ih =>
    cases ms with
    | nil =>
      rw [written]
      exact isAscii_of_all (by decide)
    | cons m ms =>
      have hmembers : ∀ c ∈ writtenMembers layout.deeper ms, IsAscii c :=
        isAscii_writtenMembers fun x hx => ih x (List.mem_cons_of_mem m hx) layout.deeper
      rw [written]
      simp only [List.cons_append, List.append_assoc, List.forall_mem_cons, List.forall_mem_append]
      exact ⟨by decide, isAscii_gap _, isAscii_writtenString m.1, isAscii_colon _,
        ih m List.mem_cons_self _, hmembers, isAscii_gap _, by decide, by simp⟩

end ClientScribe.Json
