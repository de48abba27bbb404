import ClientScribe.Proofs.Reference.Decoding

/-!
What is decoded is encoded no deeper than the value it came from, and every string of it was there.
Only defaults are new: empty lists, which have no depth, the empty string and the flag.
-/

namespace ClientScribe

open View (shape)

/-- What a check takes out of a value is encoded within the bounds of that value. -/
def Decode.Keeps {α : Type} (P : String → Prop) (check : Json.Written → Checked α)
    (encode : α → Json) : Prop :=
  ∀ (depth : Nat) (v : Json.Written) (a : α), check v = .ok a → v.value.Within P depth →
    (encode a).Within P depth

namespace Decode

variable {P : String → Prop} {α : Type} {check : Json.Written → Checked α} {encode : α → Json}

theorem Keeps.ofText : Keeps P text .str := by
  intro depth v s h hv
  rwa [text_eq_ok_iff.1 h] at hv

theorem Keeps.ofList (h : Keeps P check encode) :
    Keeps P (list check) fun as => .arr (as.map encode) := by
  intro depth v as hlist hv
  obtain ⟨ws, hshape, hlength, hall⟩ := of_list_eq_ok hlist
  obtain ⟨vs, hvalue, rfl⟩ := Json.Written.shape_eq_list hshape
  rw [hvalue] at hv
  rcases Json.within_arr_iff.1 hv with rfl | ⟨d, rfl, hitems⟩
  · rw [List.length_eq_zero_iff.1 hlength]
    exact Json.within_arr_nil
  · intro w hw
    obtain ⟨a, ha, rfl⟩ := List.mem_map.1 hw
    obtain ⟨u, hu, hcheck⟩ := hall a ha
    obtain ⟨v, hv, rfl⟩ := List.mem_map.1 hu
    exact h d ⟨v⟩ a hcheck (hitems v hv)

section

variable {ms : Json.Members} {spellings : List String} {depth : Nat}

theorem within_of_mem_members (hms : ∀ m ∈ ms, m.2.Within P depth) :
    ∀ m ∈ Json.Written.members ms, m.2.value.Within P depth := by
  intro m hm
  obtain ⟨m', hm', rfl⟩ := List.mem_map.1 hm
  exact hms m' hm'

theorem Keeps.ofRequired (h : Keeps P check encode) (hms : ∀ m ∈ ms, m.2.Within P depth) {a : α}
    (hrequired : required spellings check (Json.Written.members ms) = .ok a) :
    (encode a).Within P depth := by
  obtain ⟨m, hm, hcheck⟩ := of_required_eq_ok hrequired
  exact h depth m.2 a hcheck (within_of_mem_members hms m hm)

theorem Keeps.ofOptional (h : Keeps P check encode) (hms : ∀ m ∈ ms, m.2.Within P depth)
    {default a : α} (hdefault : (encode default).Within P depth)
    (hoptional : optional spellings default check (Json.Written.members ms) = .ok a) :
    (encode a).Within P depth := by
  rcases of_optional_eq_ok hoptional with rfl | ⟨m, hm, hcheck⟩
  · exact hdefault
  · exact h depth m.2 a hcheck (within_of_mem_members hms m hm)

theorem Keeps.ofNullable (h : Keeps P check encode) (hms : ∀ m ∈ ms, m.2.Within P depth)
    {o : Option α}
    (hoptional : optional spellings none (nullable check) (Json.Written.members ms) = .ok o) :
    ∀ a, o = some a → (encode a).Within P depth := by
  intro a ha
  obtain ⟨m, hm, hcheck⟩ := exists_of_optional_nullable hoptional ha
  exact h depth m.2 a hcheck (within_of_mem_members hms m hm)

/-- An object with a member is one level deeper than its members. -/
theorem exists_depth (h : (Json.obj ms).Within P depth) {a : α}
    (hrequired : required spellings check (Json.Written.members ms) = .ok a) :
    ∃ d, depth = d + 1 ∧ ∀ m ∈ ms, m.2.Within P d := by
  obtain ⟨m, hm, -⟩ := of_required_eq_ok hrequired
  rcases Json.within_obj_iff.1 h with rfl | hdeeper
  · exact absurd hm List.not_mem_nil
  · exact hdeeper

end

/-! ### Types and fields -/

section

variable {β : Type} [View β] {room : Nat} {around : Around} {v : β}

/-- What the check of a type asks of its members. -/
theorem of_typeNode_eq_ok {n : TypeNode} (h : typeNode (room + 1) around v = .ok n) :
    ∃ members, shape v = .record members
      ∧ required ["type"] text members = .ok n.tag
      ∧ optional ["startsWith", "starts_with"] none (nullable text) members = .ok n.startsWith
      ∧ optional ["possibleValues", "possible_values"] none (nullable (list text)) members =
        .ok n.possibleValues
      ∧ optional ["fields"] none (nullable (list (typeField room (around.enter .type v)))) members =
        .ok n.fields
      ∧ optional ["id"] none (nullable text) members = .ok n.id
      ∧ optional ["arrayTypes", "array_types"] none
        (nullable (list (typeNode room (around.enter .type v)))) members = .ok n.arrayTypes := by
  rw [typeNode] at h
  obtain ⟨members, hshape, h⟩ := of_nested_eq_ok h
  simp only [Checked.ap_eq_ok_iff, Checked.map_eq_ok_iff] at h
  obtain ⟨_, arrayTypes, ⟨_, id, ⟨_, fields, ⟨_, values, ⟨_, start, ⟨tag, htag, rfl⟩, hstart, rfl⟩,
    hvalues, rfl⟩, hfields, rfl⟩, hid, rfl⟩, htypes, rfl⟩ := h
  exact ⟨members, hshape, htag, hstart, hvalues, hfields, hid, htypes⟩

/-- What the check of a field asks of its members. -/
theorem of_typeField_eq_ok {f : TypeField} (h : typeField (room + 1) around v = .ok f) :
    ∃ members, shape v = .record members
      ∧ required ["name"] text members = .ok f.name
      ∧ required ["type", "types"] (list (typeNode room (around.enter .field v))) members =
        .ok f.types
      ∧ optional ["description"] "" text members = .ok f.description := by
  rw [typeField] at h
  obtain ⟨members, hshape, h⟩ := of_nested_eq_ok h
  simp only [Checked.ap_eq_ok_iff, Checked.map_eq_ok_iff] at h
  obtain ⟨_, description, ⟨_, required, ⟨_, types, ⟨name, hname, rfl⟩, htypes, rfl⟩, -, rfl⟩,
    hdescription, rfl⟩ := h
  exact ⟨members, hshape, hname, htypes, hdescription⟩

end

/-- Types and fields stay within the bounds of their values, however much room there is. -/
theorem Keeps.ofTree (hempty : P "") (room : Nat) :
    (∀ around, Keeps P (typeNode room around) TypeNode.toJson)
    ∧ ∀ around, Keeps P (typeField room around) TypeField.toJson := by
  induction room with
  | zero =>
    constructor <;> intro around depth v a h
    · simp [typeNode, Checked.refuse] at h
    · simp [typeField, Checked.refuse] at h
  | succ room ih =>
    obtain ⟨ihNode, ihField⟩ := ih
    constructor
    · intro around depth v n h hv
      obtain ⟨_, hshape, htag, hstart, hvalues, hfields, hid, htypes⟩ := of_typeNode_eq_ok h
      obtain ⟨ms, hvalue, rfl⟩ := Json.Written.shape_eq_record hshape
      rw [hvalue] at hv
      obtain ⟨d, rfl, hms⟩ := exists_depth hv htag
      rw [TypeNode.toJson_eq]
      apply TypeNode.forall_mem_toMembers (P := fun v => v.Within P d)
      · exact Keeps.ofText.ofRequired hms htag
      · exact Keeps.ofText.ofNullable hms hstart
      · exact Keeps.ofText.ofList.ofNullable hms hvalues
      · exact (ihField _).ofList.ofNullable hms hfields
      · exact Keeps.ofText.ofNullable hms hid
      · exact (ihNode _).ofList.ofNullable hms htypes
    · intro around depth v f h hv
      obtain ⟨_, hshape, hname, htypes, hdescription⟩ := of_typeField_eq_ok h
      obtain ⟨ms, hvalue, rfl⟩ := Json.Written.shape_eq_record hshape
      rw [hvalue] at hv
      obtain ⟨d, rfl, hms⟩ := exists_depth hv hname
      rw [TypeField.toJson_eq]
      apply TypeField.forall_mem_toMembers (P := fun v => v.Within P d)
      · exact Keeps.ofText.ofRequired hms hname
      · exact (ihNode _).ofList.ofRequired hms htypes
      · exact Json.within_bool
      · exact Keeps.ofText.ofOptional hms (Json.within_str.2 hempty) hdescription

theorem Keeps.ofFields (hempty : P "") :
    Keeps P fields fun fs => .arr (TypeField.listToJson fs) := by
  intro depth v fs h hv
  simp only [TypeField.listToJson_eq]
  exact ((Keeps.ofTree hempty maxNesting).2 []).ofList depth v fs h hv

theorem Keeps.ofEnumValue (hempty : P "") : Keeps P enumValue EnumValue.toJson := by
  intro depth v a h hv
  obtain ⟨members, hshape, h⟩ := of_record_eq_ok h
  obtain ⟨ms, hvalue, rfl⟩ := Json.Written.shape_eq_record hshape
  simp only [Checked.ap_eq_ok_iff, Checked.map_eq_ok_iff] at h
  obtain ⟨_, description, ⟨name, hname, rfl⟩, hdescription, rfl⟩ := h
  rw [hvalue] at hv
  obtain ⟨d, rfl, hms⟩ := exists_depth hv hname
  intro m hm
  simp only [List.mem_cons, List.not_mem_nil, or_false] at hm
  rcases hm with rfl | rfl
  · exact Keeps.ofText.ofRequired hms hname
  · exact Keeps.ofText.ofOptional hms (Json.within_str.2 hempty) hdescription

/-! ### References -/

/-- What the check of a request asks of its members. -/
theorem of_request_eq_ok {β : Type} [View β] {members : List (String × β)} {r : Request}
    (h : request members = .ok r) :
    required ["method"] text members = .ok r.method
    ∧ required ["path"] text members = .ok r.path
    ∧ optional ["params"] [] fields members = .ok r.params
    ∧ optional ["body"] [] fields members = .ok r.body
    ∧ optional ["query"] [] fields members = .ok r.query
    ∧ optional ["headers"] [] fields members = .ok r.headers := by
  simp only [request, Checked.ap_eq_ok_iff, Checked.map_eq_ok_iff] at h
  obtain ⟨_, headers, ⟨_, query, ⟨_, body, ⟨_, params, ⟨_, path, ⟨method, hmethod, rfl⟩, hpath,
    rfl⟩, hparams, rfl⟩, hbody, rfl⟩, hquery, rfl⟩, hheaders, rfl⟩ := h
  exact ⟨hmethod, hpath, hparams, hbody, hquery, hheaders⟩

/-- The content of a reference stays within the bounds of the members of the reference. -/
theorem within_of_content_eq_ok (hempty : P "") {ms : Json.Members} {depth : Nat}
    (hms : ∀ m ∈ ms, m.2.Within P depth) {kind : Kind} {c : Content}
    (h : content (Json.Written.members ms) kind = .ok c) :
    ∀ m ∈ c.toMembers, m.2.Within P depth := by
  have hfields {k : String} {fs : List TypeField}
      (h : optional [k] [] fields (Json.Written.members ms) = .ok fs) :
      (Json.arr (TypeField.listToJson fs)).Within P depth :=
    (Keeps.ofFields hempty).ofOptional hms Json.within_arr_nil h
  cases kind with
  | type =>
    obtain ⟨fs, hfs, rfl⟩ := Checked.map_eq_ok_iff.1 h
    intro m hm
    rw [Content.toMembers, List.mem_singleton] at hm
    subst hm
    exact hfields hfs
  | enum =>
    obtain ⟨vs, hvs, rfl⟩ := Checked.map_eq_ok_iff.1 h
    intro m hm
    rw [Content.toMembers, List.mem_singleton] at hm
    subst hm
    exact (Keeps.ofEnumValue hempty).ofList.ofOptional hms Json.within_arr_nil hvs
  | request =>
    obtain ⟨r, hr, rfl⟩ := Checked.map_eq_ok_iff.1 h
    obtain ⟨hmethod, hpath, hparams, hbody, hquery, hheaders⟩ := of_request_eq_ok hr
    apply Content.forall_mem_toMembers_request (P := fun v => v.Within P depth)
    · exact Keeps.ofText.ofRequired hms hmethod
    · exact Keeps.ofText.ofRequired hms hpath
    · exact hfields hparams
    · exact hfields hbody
    · exact hfields hquery
    · exact hfields hheaders

/-- What the check of a reference asks of its members. -/
theorem of_referenceFrom_eq_ok {β : Type} [View β] {members : List (String × β)} {r : Reference}
    (h : referenceFrom members = .ok r) :
    ∃ v name kind, members.lookup "kind" = some v ∧ kindOf v = .ok (name, kind)
      ∧ required ["product"] text members = .ok r.product
      ∧ optional ["parent"] none (nullable text) members = .ok r.parent
      ∧ required ["id"] text members = .ok r.id
      ∧ required ["name"] text members = .ok r.name
      ∧ optional ["description"] "" text members = .ok r.description
      ∧ content members kind = .ok r.content := by
  rw [referenceFrom] at h
  split at h
  · simp [Checked.refuse] at h
  · rename_i v hlookup
    split at h
    · rename_i name kind hkind
      rw [Checked.under_eq_ok_iff] at h
      simp only [referenceOf, Checked.ap_eq_ok_iff, Checked.map_eq_ok_iff] at h
      obtain ⟨_, content, ⟨_, description, ⟨_, title, ⟨_, id, ⟨_, parent, ⟨product, hproduct, rfl⟩,
        hparent, rfl⟩, hid, rfl⟩, hname, rfl⟩, hdescription, rfl⟩, hcontent, rfl⟩ := h
      exact ⟨v, name, kind, hlookup, hkind, hproduct, hparent, hid, hname, hdescription, hcontent⟩
    · simp at h

theorem of_reference_eq_ok {v : Json.Written} {r : Reference} (h : reference v = .ok r) :
    ∃ ms, v.value = .obj ms ∧ referenceFrom (Json.Written.members ms) = .ok r := by
  rw [reference] at h
  split at h
  · rename_i members hshape
    obtain ⟨ms, hvalue, rfl⟩ := Json.Written.shape_eq_record hshape
    exact ⟨ms, hvalue, h⟩
  · simp [Checked.refuse] at h

/-- A reference stays within the bounds of its value. -/
theorem Keeps.ofReference (hempty : P "") (hkinds : ∀ c : Content, P c.kind) :
    Keeps P reference Reference.toJson := by
  intro depth v r h hv
  obtain ⟨ms, hvalue, hmembers⟩ := of_reference_eq_ok h
  obtain ⟨-, -, kind, -, -, hproduct, hparent, hid, hname, hdescription, hcontent⟩ :=
    of_referenceFrom_eq_ok hmembers
  rw [hvalue] at hv
  obtain ⟨d, rfl, hms⟩ := exists_depth hv hproduct
  apply Reference.forall_mem_toMembers (P := fun v => v.Within P d)
  · exact Keeps.ofText.ofRequired hms hproduct
  · exact Keeps.ofText.ofNullable hms hparent
  · exact Keeps.ofText.ofRequired hms hid
  · exact Keeps.ofText.ofRequired hms hname
  · exact Keeps.ofText.ofOptional hms (Json.within_str.2 hempty) hdescription
  · exact Json.within_str.2 (hkinds r.content)
  · exact within_of_content_eq_ok hempty hms hcontent

theorem Keeps.ofReferences (hempty : P "") (hkinds : ∀ c : Content, P c.kind) :
    Keeps P references fun rs => .arr (rs.map Reference.toJson) :=
  (Keeps.ofReference hempty hkinds).ofList

end Decode

end ClientScribe
