import ClientScribe.Proofs.Reference.Bound

/-!
How deep types and fields are inside each other.  A check has room for so many of them: what it
takes fits into its room, and what was encoded is decoded if it fits.
-/

namespace ClientScribe

section

variable {d : Nat}

theorem TypeNode.nestingOf_le_iff {ts : List TypeNode} :
    nestingOf ts ≤ d ↔ ∀ t ∈ ts, t.nesting ≤ d := by
  induction ts with
  | nil => simp [nestingOf]
  | cons t ts ih => rw [nestingOf, Nat.max_le, ih, List.forall_mem_cons]

theorem TypeField.nestingOf_le_iff {fs : List TypeField} :
    nestingOf fs ≤ d ↔ ∀ f ∈ fs, f.nesting ≤ d := by
  induction fs with
  | nil => simp [nestingOf]
  | cons f fs ih => rw [nestingOf, Nat.max_le, ih, List.forall_mem_cons]

/-- A type takes a place, and leaves the others for its fields and element types. -/
theorem TypeNode.nesting_le_succ_iff {n : TypeNode} : n.nesting ≤ d + 1 ↔
    (∀ fs, n.fields = some fs → ∀ f ∈ fs, f.nesting ≤ d)
      ∧ ∀ ts, n.arrayTypes = some ts → ∀ t ∈ ts, t.nesting ≤ d := by
  obtain ⟨tag, startsWith, possibleValues, fields, id, arrayTypes⟩ := n
  rw [nesting, Nat.add_le_add_iff_right, Nat.max_le]
  apply and_congr
  · cases fields with
    | none => simp [TypeField.nesting?]
    | some fs => simp [TypeField.nesting?, TypeField.nestingOf_le_iff]
  · cases arrayTypes with
    | none => simp [nesting?]
    | some ts => simp [nesting?, nestingOf_le_iff]

theorem TypeField.nesting_le_succ_iff {f : TypeField} :
    f.nesting ≤ d + 1 ↔ ∀ t ∈ f.types, t.nesting ≤ d := by
  obtain ⟨name, types, required, description⟩ := f
  rw [nesting, Nat.add_le_add_iff_right, TypeNode.nestingOf_le_iff]

theorem TypeNode.nesting_pos (n : TypeNode) : 0 < n.nesting := by
  obtain ⟨tag, startsWith, possibleValues, fields, id, arrayTypes⟩ := n
  exact Nat.succ_pos _

theorem TypeField.nesting_pos (f : TypeField) : 0 < f.nesting := by
  obtain ⟨name, types, required, description⟩ := f
  exact Nat.succ_pos _

end

namespace Decode

open View (shape)

variable {β : Type} [View β]

/-! ### What a check takes -/

/-- Whatever a check takes fits into its room. -/
theorem nesting_le_of_eq_ok (room : Nat) :
    (∀ (around : Around) (v : β) (n : TypeNode), typeNode room around v = .ok n → n.nesting ≤ room)
    ∧ ∀ (around : Around) (v : β) (f : TypeField),
      typeField room around v = .ok f → f.nesting ≤ room := by
  induction room with
  | zero =>
    constructor <;> intro around v a h
    · simp [typeNode, Checked.refuse] at h
    · simp [typeField, Checked.refuse] at h
  | succ room ih =>
    obtain ⟨ihNode, ihField⟩ := ih
    constructor <;> intro around v a h
    · obtain ⟨members, -, -, -, -, hfields, -, htypes⟩ := of_typeNode_eq_ok h
      apply TypeNode.nesting_le_succ_iff.2
      constructor
      · intro fs hsome f hf
        obtain ⟨m, -, hlist⟩ := exists_of_optional_nullable hfields hsome
        obtain ⟨vs, -, -, hall⟩ := of_list_eq_ok hlist
        obtain ⟨w, -, hw⟩ := hall f hf
        exact ihField _ w f hw
      · intro ts hsome t ht
        obtain ⟨m, -, hlist⟩ := exists_of_optional_nullable htypes hsome
        obtain ⟨vs, -, -, hall⟩ := of_list_eq_ok hlist
        obtain ⟨w, -, hw⟩ := hall t ht
        exact ihNode _ w t hw
    · obtain ⟨members, -, -, htypes, -⟩ := of_typeField_eq_ok h
      apply TypeField.nesting_le_succ_iff.2
      intro t ht
      obtain ⟨m, -, hlist⟩ := of_required_eq_ok htypes
      obtain ⟨vs, -, -, hall⟩ := of_list_eq_ok hlist
      obtain ⟨w, -, hw⟩ := hall t ht
      exact ihNode _ w t hw

theorem nestingOf_le_of_fields {v : β} {fs : List TypeField} (h : fields v = .ok fs) :
    TypeField.nestingOf fs ≤ maxNesting := by
  apply TypeField.nestingOf_le_iff.2
  intro f hf
  obtain ⟨vs, -, -, hall⟩ := of_list_eq_ok h
  obtain ⟨w, -, hw⟩ := hall f hf
  exact (nesting_le_of_eq_ok maxNesting).2 _ w f hw

/-- Any content that a check takes fits into its room. -/
theorem nesting_le_of_content {members : List (String × β)} {kind : Kind} {c : Content}
    (h : content members kind = .ok c) : c.nesting ≤ maxNesting := by
  have hfields {k : String} {fs : List TypeField}
      (h : optional [k] [] fields members = .ok fs) : ∀ f ∈ fs, f.nesting ≤ maxNesting := by
    rcases of_optional_eq_ok h with rfl | ⟨m, -, hcheck⟩
    · exact List.forall_mem_nil _
    · exact TypeField.nestingOf_le_iff.1 (nestingOf_le_of_fields hcheck)
  cases kind with
  | type =>
    obtain ⟨fs, hfs, rfl⟩ := Checked.map_eq_ok_iff.1 h
    exact TypeField.nestingOf_le_iff.2 (hfields hfs)
  | enum =>
    obtain ⟨vs, -, rfl⟩ := Checked.map_eq_ok_iff.1 h
    exact Nat.zero_le maxNesting
  | request =>
    obtain ⟨r, hr, rfl⟩ := Checked.map_eq_ok_iff.1 h
    obtain ⟨-, -, hparams, hbody, hquery, hheaders⟩ := of_request_eq_ok hr
    apply TypeField.nestingOf_le_iff.2
    simp only [Request.fields, List.forall_mem_append]
    exact ⟨⟨⟨hfields hparams, hfields hbody⟩, hfields hquery⟩, hfields hheaders⟩

/-! ### What was encoded -/

variable {view : Json → β} (hview : Json.Shown view)

include hview

/-- What fits is decoded as it was. -/
theorem typeNode_typeField_of_nesting (room : Nat) :
    (∀ n : TypeNode, n.nesting ≤ room → typeNode room [] (view n.toJson) = .ok n)
    ∧ ∀ f : TypeField, f.nesting ≤ room → typeField room [] (view f.toJson) = .ok f := by
  induction room with
  | zero =>
    exact ⟨fun n h => absurd h (Nat.not_le_of_lt n.nesting_pos),
      fun f h => absurd h (Nat.not_le_of_lt f.nesting_pos)⟩
  | succ room ih =>
    obtain ⟨ihNode, ihField⟩ := ih
    constructor
    · intro n h
      obtain ⟨hfields, htypes⟩ := TypeNode.nesting_le_succ_iff.1 h
      apply typeNode_of_parts hview
      · exact fun fs hsome f hf => ihField f (hfields fs hsome f hf)
      · exact fun ts hsome t ht => ihNode t (htypes ts hsome t ht)
    · intro f h
      apply typeField_of_parts hview
      exact fun t ht => ihNode t (TypeField.nesting_le_succ_iff.1 h t ht)

theorem fields_of_nesting {fs : List TypeField} (h : TypeField.nestingOf fs ≤ maxNesting) :
    fields (view (.arr (TypeField.listToJson fs))) = .ok fs := by
  rw [TypeField.listToJson_eq]
  apply list_of_encoded hview
  intro f hf
  exact (typeNode_typeField_of_nesting hview maxNesting).2 f (TypeField.nestingOf_le_iff.1 h f hf)

end Decode

end ClientScribe
