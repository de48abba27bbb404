import ClientScribe.Reference.Graph

/-!
What a type owns.  References are gathered by the id of their parent alone, so nothing says that
they belong to the product of the type.
-/

namespace ClientScribe

theorem Reference.isEnum_iff_kind {r : Reference} : r.isEnum = true ↔ r.kind = "enum" := by
  rw [kind, isEnum]
  cases r.content <;> simp [Content.kind]

theorem Reference.of_request?_eq_some {r : Reference} {q : Reference × Request}
    (h : r.request? = some q) : q.1 = r ∧ r.kind = "request" := by
  rw [request?] at h
  split at h
  · rename_i request hcontent
    rw [← Option.some.inj h, kind, hcontent]
    exact ⟨rfl, rfl⟩
  · exact absurd h (by simp)

theorem Reference.exists_request?_of_kind {r : Reference} (h : r.kind = "request") :
    ∃ q, r.request? = some q := by
  rw [kind] at h
  rw [request?]
  cases hcontent : r.content with
  | type fields => simp [hcontent, Content.kind] at h
  | enum values => simp [hcontent, Content.kind] at h
  | request request => exact ⟨(r, request), rfl⟩

/-- The references that a type owns, its error list first. -/
def Children.references (c : Children) : List Reference := c.enum.toList ++ c.requests.map Prod.fst

namespace Reference

variable {parent : Option String} {rs : List Reference}

theorem kind_of_mem_enum_children {e : Reference} (h : e ∈ (children parent rs).enum) :
    e.kind = "enum" :=
  isEnum_iff_kind.1 (List.find?_some h)

theorem kind_of_mem_requests_children {q : Reference × Request}
    (h : q ∈ (children parent rs).requests) : q.1.kind = "request" := by
  obtain ⟨r, -, hr⟩ := List.mem_filterMap.1 h
  obtain ⟨hsame, hkind⟩ := of_request?_eq_some hr
  rw [hsame, hkind]

/-- What is gathered is among the references and has the parent. -/
theorem of_mem_children {t : Reference} (h : t ∈ (children parent rs).references) :
    t ∈ rs ∧ t.parent = parent := by
  have howned {t : Reference} (h : t ∈ rs.filter fun r => r.parent == parent) :
      t ∈ rs ∧ t.parent = parent :=
    ⟨(List.mem_filter.1 h).1, eq_of_beq (List.mem_filter.1 h).2⟩
  rcases List.mem_append.1 h with h | h
  · exact howned (List.mem_of_find?_eq_some (Option.mem_toList.1 h))
  · obtain ⟨q, hq, rfl⟩ := List.mem_map.1 h
    obtain ⟨r, hr, hrequest⟩ := List.mem_filterMap.1 hq
    rw [(of_request?_eq_some hrequest).1]
    exact howned hr

/-- A request is found under its parent. -/
theorem mem_requests_children {r : Reference} (hr : r ∈ rs) (hparent : r.parent = parent)
    {q : Reference × Request} (hq : r.request? = some q) : q ∈ (children parent rs).requests :=
  List.mem_filterMap.2 ⟨r, List.mem_filter.2 ⟨hr, beq_iff_eq.2 hparent⟩, hq⟩

/-- Under the parent of an error list one is found. -/
theorem isSome_enum_children {r : Reference} (hr : r ∈ rs) (hparent : r.parent = parent)
    (henum : r.isEnum = true) : (children parent rs).enum.isSome = true :=
  List.find?_isSome.2 ⟨r, List.mem_filter.2 ⟨hr, beq_iff_eq.2 hparent⟩, henum⟩

/-- The gathered requests stand in the order of the references. -/
theorem requests_children_sublist :
    ((children parent rs).requests.map Prod.fst).Sublist rs := by
  have hrequests (owned : List Reference) :
      ((owned.filterMap request?).map Prod.fst).Sublist owned := by
    induction owned with
    | nil => exact .slnil
    | cons r owned ih =>
      cases h : r.request? with
      | none =>
        rw [List.filterMap_cons_none h]
        exact ih.cons r
      | some q =>
        rw [List.filterMap_cons_some h, List.map_cons, (of_request?_eq_some h).1]
        exact ih.cons_cons r
  exact (hrequests _).trans List.filter_sublist

end Reference

end ClientScribe
