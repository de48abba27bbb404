import ClientScribe.Inference.Refine

/-!
The shape of inferred types.  A token gives bare types and arrays of them, and every refinement that
a type has is what its description says; so nothing is made up, and nothing is nested deeper than
one array.
-/

namespace ClientScribe

/-! ### Changing one type -/

namespace TypeNode

variable {P : TypeNode → Prop} {tag : String} {f : TypeNode → TypeNode}

/-- Some types, all with a property. -/
def AllHave (P : TypeNode → Prop) (ts : List TypeNode) : Prop := ts ≠ [] ∧ ∀ t ∈ ts, P t

theorem AllHave.cons {t : TypeNode} {ts : List TypeNode} (ht : P t) (hts : ∀ u ∈ ts, P u) :
    AllHave P (t :: ts) :=
  ⟨List.cons_ne_nil t ts, List.forall_mem_cons.2 ⟨ht, hts⟩⟩

theorem allHave_of_changeHere? (hf : ∀ t, P t → t.tag = tag → P (f t)) {ts us : List TypeNode}
    (hts : ∀ t ∈ ts, P t) (h : changeHere? tag f ts = some us) : AllHave P us := by
  induction ts generalizing us with
  | nil => exact absurd h (by simp [changeHere?])
  | cons t ts ih =>
    rw [List.forall_mem_cons] at hts
    rw [changeHere?] at h
    split at h
    · rename_i htag
      rw [← Option.some.inj h]
      exact .cons (hf t hts.1 htag) hts.2
    · obtain ⟨vs, hvs, rfl⟩ := Option.map_eq_some_iff.1 h
      exact .cons hts.1 (ih hts.2 hvs).2

theorem allHave_of_changeDeeper? {ts us : List TypeNode} (hts : ∀ t ∈ ts, P t)
    (hinside : ∀ t ∈ ts, ∀ u, changeInside? tag f t = some u → P u)
    (h : changeDeeper? tag f ts = some us) : AllHave P us := by
  induction ts generalizing us with
  | nil => exact absurd h (by simp [changeDeeper?])
  | cons t ts ih =>
    rw [List.forall_mem_cons] at hts hinside
    rw [changeDeeper?] at h
    split at h
    · rename_i u hu
      rw [← Option.some.inj h]
      exact .cons (hinside.1 u hu) hts.2
    · obtain ⟨vs, hvs, rfl⟩ := Option.map_eq_some_iff.1 h
      exact .cons hts.1 (ih hts.2 hinside.2 hvs).2

end TypeNode

/-! ### What a description says -/

/-- Every refinement of the type is what the description says. -/
structure TypeNode.IsRefined (description : String) (n : TypeNode) : Prop where
  startsWith : ∀ word, n.startsWith = some word →
    Clue.beginning? description.toList = some word.toList
  possibleValues : ∀ values, n.possibleValues = some values →
    values ≠ [] ∧ Clue.values description.toList = values.map String.toList
  fields : ∀ fields, n.fields = some fields → ∃ names : List String,
    names ≠ [] ∧ Clue.fieldNames description.toList = names.map String.toList
      ∧ fields = names.map fun name => TypeField.named name.toList
  id : ∀ id, n.id = some id → Clue.link? description.toList = some id.toList

/-- A type without elements that is refined. -/
structure TypeNode.IsLeaf (description : String) (n : TypeNode) : Prop where
  refined : n.IsRefined description
  arrayTypes : n.arrayTypes = none

/-- A type without elements, or an array of such types. -/
inductive TypeNode.Inferred (description : String) : TypeNode → Prop
  | leaf {n : TypeNode} (h : n.IsLeaf description) : Inferred description n
  | array {ts : List TypeNode} (h : AllHave (IsLeaf description) ts) :
    Inferred description (.arrayOf ts)

section

variable {description : String}

theorem TypeNode.isLeaf_plain (tag : String) : (plain tag).IsLeaf description := by
  refine ⟨⟨?_, ?_, ?_, ?_⟩, rfl⟩ <;> exact fun _ h => nomatch h

theorem map_toList_ofList (texts : List (List Char)) :
    (texts.map String.ofList).map String.toList = texts := by
  simp [List.map_map, Function.comp_def]

/-- A refinement takes what it adds from the description. -/
theorem Refinement.isRefined_apply (r : Refinement) {n : TypeNode} (h : n.IsRefined description) :
    (r.apply description n).IsRefined description
      ∧ (r.apply description n).arrayTypes = n.arrayTypes := by
  cases r with
  | startsWith =>
    rw [apply]
    split
    · rename_i word hclue
      refine ⟨{ h with startsWith := ?_ }, rfl⟩
      rintro _ ⟨⟩
      rw [hclue, String.toList_ofList]
    · exact ⟨h, rfl⟩
  | possibleValues =>
    rw [apply]
    split
    · exact ⟨h, rfl⟩
    · rename_i hclue
      refine ⟨{ h with possibleValues := ?_ }, rfl⟩
      rintro _ ⟨⟩
      exact ⟨by simpa using hclue, (map_toList_ofList _).symm⟩
  | objectFields =>
    rw [apply]
    split
    · exact ⟨h, rfl⟩
    · rename_i hclue
      refine ⟨{ h with fields := ?_ }, rfl⟩
      rintro _ ⟨⟩
      refine ⟨(Clue.fieldNames description.toList).map String.ofList, by simpa using hclue,
        (map_toList_ofList _).symm, ?_⟩
      simp [List.map_map, Function.comp_def]
  | objectReference =>
    rw [apply]
    split
    · rename_i slug hclue
      refine ⟨{ h with id := ?_ }, rfl⟩
      rintro _ ⟨⟩
      rw [hclue, String.toList_ofList]
    · exact ⟨h, rfl⟩

theorem Refinement.isLeaf_apply (r : Refinement) {n : TypeNode} (h : n.IsLeaf description) :
    (r.apply description n).IsLeaf description := by
  obtain ⟨hrefined, hsame⟩ := r.isRefined_apply h.refined
  exact ⟨hrefined, hsame.trans h.arrayTypes⟩

/-- No refinement is about arrays. -/
theorem Refinement.inferred_apply (r : Refinement) {n : TypeNode} (h : n.Inferred description)
    (htag : n.tag = r.tag) : (r.apply description n).Inferred description := by
  cases h with
  | leaf hleaf => exact .leaf (r.isLeaf_apply hleaf)
  | array hts =>
    have harray : "array" = r.tag := htag
    cases r <;> exact absurd harray (by decide)

namespace TypeNode

variable {tag : String} {f : TypeNode → TypeNode}

/-- There is nothing to change inside a type without elements. -/
theorem changeInside?_eq_none {n : TypeNode} (h : n.arrayTypes = none) :
    changeInside? tag f n = none := by
  obtain ⟨t, startsWith, possibleValues, fields, id, arrayTypes⟩ := n
  obtain rfl : arrayTypes = none := h
  rw [changeInside?, changeElements?]
  split <;> rfl

/-- What a change inside an array makes of it. -/
theorem inferred_of_changeInside?
    (hf : ∀ t : TypeNode, t.IsLeaf description → (f t).IsLeaf description) {n u : TypeNode}
    (hn : n.Inferred description) (h : changeInside? tag f n = some u) :
    u.Inferred description := by
  cases hn with
  | leaf hleaf =>
    rw [changeInside?_eq_none hleaf.arrayTypes] at h
    exact absurd h (by simp)
  | @array ts hts =>
    rw [arrayOf, plain, changeInside?, if_pos rfl, changeElements?] at h
    obtain ⟨us, hus, rfl⟩ := Option.map_eq_some_iff.1 h
    rcases Option.or_eq_some_iff.1 hus with hus | ⟨-, hus⟩
    · exact .array (allHave_of_changeHere? (fun t ht _ => hf t ht) hts.2 hus)
    · refine .array (allHave_of_changeDeeper? hts.2 (fun t ht v hv => ?_) hus)
      rw [changeInside?_eq_none (hts.2 t ht).arrayTypes] at hv
      exact absurd hv (by simp)

theorem allHave_change (r : Refinement) {ts : List TypeNode}
    (h : AllHave (Inferred description) ts) :
    AllHave (Inferred description) (change r.tag (r.apply description) ts) := by
  rw [change]
  cases hchange :
      (changeHere? r.tag (r.apply description) ts).or
        (changeDeeper? r.tag (r.apply description) ts) with
  | none => exact h
  | some us =>
    rcases Option.or_eq_some_iff.1 hchange with hus | ⟨-, hus⟩
    · exact allHave_of_changeHere? (fun t ht htag => r.inferred_apply ht htag) h.2 hus
    · exact allHave_of_changeDeeper? h.2
        (fun t ht u hu => inferred_of_changeInside? (fun _ => r.isLeaf_apply) (h.2 t ht) hu) hus

/-- A token gives bare types, or an array of one. -/
theorem allHave_ofToken (token : String) : AllHave (Inferred description) (ofToken token) := by
  have harray (tag : String) : AllHave (Inferred description) [.arrayOf [.plain tag]] :=
    .cons (.array (.cons (isLeaf_plain tag) (List.forall_mem_nil _))) (List.forall_mem_nil _)
  rw [ofToken]
  split
  · exact harray _
  · split
    · exact harray _
    · refine ⟨by simpa using Text.pieces_ne_nil _ _, List.forall_mem_map.2 ?_⟩
      intro word _
      exact .leaf (isLeaf_plain _)

/-- A documented field has a type, and whatever its types tell is said by token and description. -/
theorem allHave_infer (token description : String) :
    AllHave (Inferred description) (infer token description) := by
  have hfold (rs : List Refinement) : ∀ ts, AllHave (Inferred description) ts →
      AllHave (Inferred description)
        (rs.foldl (fun types r => change r.tag (r.apply description) types) ts) := by
    induction rs with
    | nil => exact fun ts hts => hts
    | cons r rs ih =>
      intro ts hts
      exact ih _ (allHave_change r hts)
  exact hfold _ _ (allHave_ofToken token)

end TypeNode

end

end ClientScribe
