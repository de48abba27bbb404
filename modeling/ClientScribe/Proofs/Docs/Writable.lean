import ClientScribe.Proofs.Docs.Ownership
import ClientScribe.Proofs.Inference.Refine
import ClientScribe.Proofs.Reference.Patched

/-!
How deep the types of a reference are inside each other.  A document names its types in words, so
there are elements in an array and named fields in an object and nothing below them; and what an
override sets has been checked.  So the references that are collected can be written, all of them.
-/

namespace ClientScribe

/-! ### Inferred types -/

namespace TypeNode

variable {description : String} {n : TypeNode}

theorem IsLeaf.nesting_le (h : n.IsLeaf description) : n.nesting ≤ 3 := by
  apply nesting_le_succ_iff.2
  constructor
  · intro fs hfs f hf
    obtain ⟨names, -, -, rfl⟩ := h.refined.fields fs hfs
    obtain ⟨name, -, rfl⟩ := List.mem_map.1 hf
    exact Nat.le_refl 2
  · intro ts hts
    rw [h.arrayTypes] at hts
    exact absurd hts (by simp)

theorem Inferred.nesting_le (h : n.Inferred description) : n.nesting ≤ 4 := by
  cases h with
  | leaf hleaf => exact Nat.le_succ_of_le hleaf.nesting_le
  | @array us hus =>
    apply nesting_le_succ_iff.2
    refine ⟨fun fs hfs => absurd hfs (by simp [arrayOf, plain]), ?_⟩
    intro ts hts t ht
    obtain rfl := Option.some.inj hts
    exact (hus.2 t ht).nesting_le

end TypeNode

/-- A field whose types are inferred leaves room for many more. -/
theorem TypeField.nesting_infer_le (name token description : String) (required : Bool) :
    (TypeField.mk name (TypeNode.infer token description) required description).nesting
      ≤ Decode.maxNesting := by
  have hfour : TypeNode.nestingOf (TypeNode.infer token description) ≤ 4 :=
    TypeNode.nestingOf_le_iff.2 fun t ht =>
      ((TypeNode.allHave_infer token description).2 t ht).nesting_le
  rw [nesting]
  exact Nat.le_trans (Nat.succ_le_succ hfour) (by decide)

/-! ### References -/

/-- What a page says of a reference can be written. -/
theorem Content.Documented.nesting_le {c : Content} (h : c.Documented) :
    c.nesting ≤ Decode.maxNesting := by
  cases h with
  | @type entries fields hfields =>
    apply TypeField.nestingOf_le_iff.2
    obtain ⟨rows, -, rfl⟩ := Json.map_eq_ok_iff.1 hfields
    intro f hf
    obtain ⟨row, -, hrow⟩ := List.mem_filterMap.1 hf
    rw [Table.Row.field?] at hrow
    split at hrow
    · exact absurd hrow (by simp)
    · obtain rfl := Option.some.inj hrow
      exact TypeField.nesting_infer_le _ _ _ _
  | enum values => exact Nat.zero_le _
  | request e =>
    apply TypeField.nestingOf_le_iff.2
    intro f hf
    simp only [Request.fields, Endpoint.request, Param.field, List.mem_append, List.mem_map] at hf
    obtain ((⟨p, -, rfl⟩ | ⟨p, -, rfl⟩) | ⟨p, -, rfl⟩) | ⟨p, -, rfl⟩ := hf <;>
      exact TypeField.nesting_infer_le _ _ _ _

section

variable {β : Type} [View β] {fixes : List (String × List (String × β))}

/-- A reference that can be written can be written with its override. -/
theorem Reference.nesting_le_of_override {r s : Reference}
    (hr : r.content.nesting ≤ Decode.maxNesting) (h : r.override (.ofMembers fixes) = .ok s) :
    s.content.nesting ≤ Decode.maxNesting := by
  rw [override, Overrides.ofMembers, Json.lookup_map] at h
  cases hfix : fixes.lookup r.id with
  | none =>
    rw [hfix] at h
    rwa [← Checked.ok.inj h]
  | some members =>
    rw [hfix] at h
    by_cases hempty : members = []
    · subst hempty
      rwa [← Checked.ok.inj h]
    · have h : Patch.ofMembers members r = .ok s := h
      rw [Patch.ofMembers_eq_referenceFrom hempty hr] at h
      obtain ⟨-, -, kind, -, -, -, -, -, -, -, hcontent⟩ := Decode.of_referenceFrom_eq_ok h
      exact Decode.nesting_le_of_content hcontent

/-- Collected references can be written: their types are never too deep inside each other. -/
theorem nesting_le_of_collect [Interpreter] {web : Web} {titles : List String}
    {products : List Product} {rs : List Reference}
    (h : (collect web ⟨.ofMembers fixes, titles⟩ products).result = .ok rs) {r : Reference}
    (hr : r ∈ rs) : r.content.nesting ≤ Decode.maxNesting := by
  rw [collect_eq_collectFrom] at h
  obtain ⟨product, v, tree, -, hextract⟩ := exists_visited_of_collectFrom h hr
  obtain ⟨own, hown, hdocumented, -⟩ := Visit.exists_own hextract
  exact Reference.nesting_le_of_override hdocumented.nesting_le hown

end

end ClientScribe
