import ClientScribe.Reference.Merge

/-!
What merging keeps: the names of the fields, each once, and no alternatives but theirs.  A name is
required of the merged fields exactly if every field of that name requires it.
-/

namespace ClientScribe

theorem TypeNode.mem_of_mem_union {t : TypeNode} {ts us : List TypeNode} (h : t ∈ union ts us) :
    t ∈ ts ∨ t ∈ us := by
  induction us generalizing ts with
  | nil => exact .inl h
  | cons u us ih =>
    rw [union, List.foldl_cons] at h
    rcases ih h with hts | hus
    · split at hts
      · exact .inl hts
      · rcases List.mem_append.1 hts with hts | hu
        · exact .inl hts
        · rw [List.mem_singleton.1 hu]
          exact .inr List.mem_cons_self
    · exact .inr (List.mem_cons_of_mem u hus)

namespace TypeField

theorem types_insert {f g : TypeField} {gs : List TypeField} (hg : g ∈ f.insert gs) :
    ∀ t ∈ g.types, ∃ h ∈ f :: gs, t ∈ h.types := by
  intro t ht
  induction gs with
  | nil => exact ⟨g, hg, ht⟩
  | cons h gs ih =>
    rw [insert] at hg
    split at hg
    · rcases List.mem_cons.1 hg with rfl | hg
      · rcases TypeNode.mem_of_mem_union ht with ht | ht
        · exact ⟨h, by simp, ht⟩
        · exact ⟨f, by simp, ht⟩
      · exact ⟨g, by simp [hg], ht⟩
    · rcases List.mem_cons.1 hg with rfl | hg
      · exact ⟨g, by simp, ht⟩
      · obtain ⟨k, hk, htk⟩ := ih hg
        rcases List.mem_cons.1 hk with rfl | hk
        · exact ⟨k, by simp, htk⟩
        · exact ⟨k, by simp [hk], htk⟩

theorem exists_of_mem_foldl_insert {merged fields : List TypeField} {f : TypeField}
    (hf : f ∈ fields.foldl (fun merged f => f.insert merged) merged) {t : TypeNode}
    (ht : t ∈ f.types) : ∃ g ∈ merged ++ fields, t ∈ g.types := by
  induction fields generalizing merged with
  | nil => exact ⟨f, by simpa using hf, ht⟩
  | cons g fields ih =>
    rw [List.foldl_cons] at hf
    obtain ⟨h, hh, hth⟩ := ih hf
    rcases List.mem_append.1 hh with hh | hh
    · obtain ⟨k, hk, htk⟩ := types_insert hh t hth
      rcases List.mem_cons.1 hk with rfl | hk
      · exact ⟨k, by simp, htk⟩
      · exact ⟨k, by simp [hk], htk⟩
    · exact ⟨h, by simp [hh], hth⟩

/-- Every alternative of a merged field is one of a field. -/
theorem exists_of_mem_merge {fields : List TypeField} {f : TypeField} (hf : f ∈ merge fields)
    {t : TypeNode} (ht : t ∈ f.types) : ∃ g ∈ fields, t ∈ g.types := by
  rw [merge] at hf
  exact exists_of_mem_foldl_insert hf ht

theorem mem_names_insert {f : TypeField} {gs : List TypeField} {name : String} :
    name ∈ (f.insert gs).map TypeField.name ↔ name = f.name ∨ name ∈ gs.map TypeField.name := by
  induction gs with
  | nil => simp [insert]
  | cons g gs ih =>
    rw [insert]
    split
    · rename_i hname
      simp only [List.map_cons, List.mem_cons, join]
      constructor
      · exact fun h => .inr h
      · rintro (rfl | h)
        · exact .inl hname.symm
        · exact h
    · simp only [List.map_cons, List.mem_cons, ih]
      exact or_left_comm

theorem mem_names_foldl_insert {merged fields : List TypeField} {name : String} :
    name ∈ (fields.foldl (fun merged f => f.insert merged) merged).map TypeField.name ↔
      name ∈ merged.map TypeField.name ∨ name ∈ fields.map TypeField.name := by
  induction fields generalizing merged with
  | nil => simp
  | cons f fields ih =>
    rw [List.foldl_cons, ih, mem_names_insert, List.map_cons, List.mem_cons, or_assoc,
      or_left_comm]

/-- Merging keeps the names. -/
theorem mem_names_merge {fields : List TypeField} {name : String} :
    name ∈ (merge fields).map TypeField.name ↔ name ∈ fields.map TypeField.name := by
  rw [merge, mem_names_foldl_insert]
  simp

theorem nodup_names_insert {f : TypeField} {gs : List TypeField}
    (h : (gs.map TypeField.name).Nodup) : ((f.insert gs).map TypeField.name).Nodup := by
  induction gs with
  | nil => simp [insert]
  | cons g gs ih =>
    rw [List.map_cons, List.nodup_cons] at h
    rw [insert]
    split
    · rw [List.map_cons, List.nodup_cons]
      exact h
    · rename_i hname
      rw [List.map_cons, List.nodup_cons, mem_names_insert, not_or]
      exact ⟨⟨hname, h.1⟩, ih h.2⟩

/-- No name stays twice. -/
theorem nodup_names_merge (fields : List TypeField) :
    ((merge fields).map TypeField.name).Nodup := by
  have hfold (merged : List TypeField) (h : (merged.map TypeField.name).Nodup) :
      ((fields.foldl (fun merged f => f.insert merged) merged).map TypeField.name).Nodup := by
    induction fields generalizing merged with
    | nil => exact h
    | cons f fields ih => exact ih (f.insert merged) (nodup_names_insert h)
  exact hfold [] List.nodup_nil

/-! ### Required names -/

/-- Every field of that name is required. -/
def Requires (fields : List TypeField) (name : String) : Prop :=
  ∀ f ∈ fields, f.name = name → f.required = true

theorem requires_cons {f : TypeField} {fields : List TypeField} {name : String} :
    Requires (f :: fields) name ↔ (f.name = name → f.required = true) ∧ Requires fields name :=
  List.forall_mem_cons

theorem requires_append {fields others : List TypeField} {name : String} :
    Requires (fields ++ others) name ↔ Requires fields name ∧ Requires others name :=
  List.forall_mem_append

theorem requires_insert {f : TypeField} {gs : List TypeField} {name : String} :
    Requires (f.insert gs) name ↔ Requires (f :: gs) name := by
  induction gs with
  | nil => rfl
  | cons g gs ih =>
    rw [insert]
    split
    · rename_i hname
      simp only [requires_cons, join, hname, Bool.and_eq_true]
      constructor
      · rintro ⟨hboth, hrest⟩
        exact ⟨fun h => (hboth h).2, fun h => (hboth h).1, hrest⟩
      · rintro ⟨hf, hg, hrest⟩
        exact ⟨fun h => ⟨hg h, hf h⟩, hrest⟩
    · rw [requires_cons, ih, requires_cons, requires_cons, requires_cons]
      exact and_left_comm

/-- Merging requires what every field of the name requires. -/
theorem requires_merge {fields : List TypeField} {name : String} :
    Requires (merge fields) name ↔ Requires fields name := by
  have hfold (merged : List TypeField) :
      Requires (fields.foldl (fun merged f => f.insert merged) merged) name ↔
        Requires merged name ∧ Requires fields name := by
    induction fields generalizing merged with
    | nil => simp [Requires]
    | cons f fields ih =>
      rw [List.foldl_cons, ih, requires_insert, requires_cons, requires_cons, and_assoc]
      exact and_left_comm
  rw [merge, hfold]
  simp [Requires]

end TypeField

end ClientScribe
