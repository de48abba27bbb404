import ClientScribe.Proofs.Reference.Encoding
import ClientScribe.Proofs.Schema.Hom

/-!
Checking references that are read from a JSON value.  What was encoded is decoded as it was, to any
depth that the check follows.
-/

namespace ClientScribe

open View (shape)

/-- The members of an object that is checked. -/
def Json.Written.members (ms : Json.Members) : List (String × Json.Written) :=
  ms.map fun m => (m.1, Json.Written.mk m.2)

theorem Json.Written.lookup_members (ms : Json.Members) (k : String) :
    (members ms).lookup k = (ms.lookup k).map Json.Written.mk :=
  Json.lookup_map Json.Written.mk ms k

theorem Json.Written.shape_eq_list {v : Json.Written} {ws : List Json.Written}
    (h : shape v = .list ws) : ∃ vs, v.value = .arr vs ∧ ws = vs.map Json.Written.mk := by
  obtain ⟨v⟩ := v
  cases v with
  | arr vs => exact ⟨vs, rfl, (Shape.list.inj h).symm⟩
  | int n =>
    simp only [shape] at h
    split at h <;> simp at h
  | _ => simp [shape, Shape.map] at h

theorem Json.Written.shape_eq_record {v : Json.Written} {ms : List (String × Json.Written)}
    (h : shape v = .record ms) : ∃ vs, v.value = .obj vs ∧ ms = members vs := by
  obtain ⟨v⟩ := v
  cases v with
  | obj vs => exact ⟨vs, rfl, (Shape.record.inj h).symm⟩
  | int n =>
    simp only [shape] at h
    split at h <;> simp at h
  | _ => simp [shape, Shape.map] at h

/-- Only a string is a text. -/
theorem Decode.text_eq_ok_iff {v : Json.Written} {s : String} :
    text v = .ok s ↔ v.value = .str s := by
  obtain ⟨v⟩ := v
  cases v with
  | int n => by_cases h : n.natAbs < Json.longNumber <;> simp [text, shape, h, Checked.refuse]
  | _ => simp [text, shape, Shape.map, Checked.refuse]

/-! ### What was encoded -/

@[simp] theorem Json.lookup_member? (k k' : String) (o : Option Json) :
    (member? k o).lookup k' = if k' = k then o else none := by
  cases o with
  | none => simp [member?]
  | some v =>
    by_cases h : k' = k
    · simp [member?, h]
    · simp [member?, List.lookup_cons, beq_eq_false_iff_ne.2 h, h]

@[simp] theorem Json.lookup_text? (k k' : String) (o : Option String) :
    (text? k o).lookup k' = if k' = k then o.map Json.str else none :=
  lookup_member? k k' (o.map .str)

namespace Decode

section

variable {β : Type} [View β] {view : Json → β} (hview : Json.Shown view)

include hview

theorem text_of_encoded (s : String) : text (view (.str s)) = .ok s := by
  rw [text, hview.str]

theorem flag_of_encoded (b : Bool) : flag (view (.bool b)) = .ok b := by
  rw [flag, hview.bool]

theorem isNull_str (s : String) : isNull (view (.str s)) = false := by
  rw [isNull, hview.str]

theorem isNull_arr (vs : List Json) : isNull (view (.arr vs)) = false := by
  rw [isNull, hview.arr]

/-- A list of encoded values is decoded if each of the values is. -/
theorem list_of_encoded {α : Type} {check : β → Checked α} {encode : α → Json}
    {as : List α} (h : ∀ a ∈ as, check (view (encode a)) = .ok a) :
    list check (view (.arr (as.map encode))) = .ok as := by
  have hitems : itemsFrom check 0 (as.map fun a => view (encode a)) = .ok (as.map id) :=
    itemsFrom_map h 0
  rw [list, hview.arr]
  simpa [Function.comp_def] using hitems

theorem nested_of_encoded {α : Type} {role : Role}
    {check : Around → List (String × β) → Checked α} {around : Around} {ms : Json.Members} :
    nested role check around (view (.obj ms)) = check around (mapValues view ms) := by
  rw [nested_of_mark?_eq_none (hview.mark?_eq _), record, hview.obj]

end

/-- A member that is written if it has a value is decoded as it was. -/
theorem optional_of_encoded {α β : Type} [View β] {view : Json → β} {k : String}
    {others : List String} {ms : Json.Members} {check : β → Checked α} {encode : α → Json}
    {o : Option α} (hlookup : ms.lookup k = o.map encode)
    (hothers : ∀ k' ∈ others, ms.lookup k' = none)
    (hnull : ∀ a, isNull (view (encode a)) = false)
    (hcheck : ∀ a, o = some a → check (view (encode a)) = .ok a) :
    optional (k :: others) none (nullable check) (mapValues view ms) = .ok o := by
  cases o with
  | none =>
    apply optional_of_absent
    intro k' hk'
    rw [lookup_mapValues]
    rcases List.mem_cons.1 hk' with rfl | hk'
    · rw [hlookup]
      rfl
    · rw [hothers k' hk']
      rfl
  | some a =>
    refine optional_of_lookup (v := view (encode a)) ?_ ?_
    · rw [lookup_mapValues, hlookup]
      rfl
    · exact nullable_eq_ok_iff.2 (.inr ⟨hnull a, a, hcheck a rfl, rfl⟩)

end Decode

/-- The key under which a type has each of its parts; the other spellings are not written. -/
theorem TypeNode.lookup_toMembers (n : TypeNode) :
    n.toMembers.lookup "type" = some (.str n.tag)
    ∧ n.toMembers.lookup "startsWith" = n.startsWith.map .str
    ∧ n.toMembers.lookup "possibleValues" = n.possibleValues.map (fun vs => .arr (vs.map .str))
    ∧ n.toMembers.lookup "fields" = n.fields.map (fun fs => .arr (fs.map TypeField.toJson))
    ∧ n.toMembers.lookup "id" = n.id.map .str
    ∧ n.toMembers.lookup "arrayTypes" = n.arrayTypes.map (fun ts => .arr (ts.map TypeNode.toJson))
    ∧ n.toMembers.lookup "starts_with" = none
    ∧ n.toMembers.lookup "possible_values" = none
    ∧ n.toMembers.lookup "array_types" = none := by
  simp [toMembers, List.lookup_append, List.lookup_cons]

namespace Decode

section

variable {β : Type} [View β] {view : Json → β} (hview : Json.Shown view)

include hview

/-- A type is decoded as it was if its fields and element types are. -/
theorem typeNode_of_parts {room : Nat} {n : TypeNode}
    (hfields : ∀ fs, n.fields = some fs → ∀ f ∈ fs, typeField room [] (view f.toJson) = .ok f)
    (htypes : ∀ ts, n.arrayTypes = some ts → ∀ t ∈ ts, typeNode room [] (view t.toJson) = .ok t) :
    typeNode (room + 1) [] (view n.toJson) = .ok n := by
  obtain ⟨htag, hstart, hvalues, hfs, hid, hts, hstart', hvalues', hts'⟩ := n.lookup_toMembers
  have h₁ : required ["type"] text (mapValues view n.toMembers) = .ok n.tag := by
    refine required_of_lookup (v := view (.str n.tag)) ?_ (text_of_encoded hview n.tag)
    rw [lookup_mapValues, htag]
    rfl
  have h₂ : optional ["startsWith", "starts_with"] none (nullable text)
      (mapValues view n.toMembers) = .ok n.startsWith :=
    optional_of_encoded hstart (by simpa using hstart') (isNull_str hview)
      fun s _ => text_of_encoded hview s
  have h₃ : optional ["possibleValues", "possible_values"] none (nullable (list text))
      (mapValues view n.toMembers) = .ok n.possibleValues :=
    optional_of_encoded hvalues (by simpa using hvalues') (fun _ => isNull_arr hview _)
      fun vs _ => list_of_encoded hview fun s _ => text_of_encoded hview s
  have h₄ : optional ["fields"] none (nullable (list (typeField room [])))
      (mapValues view n.toMembers) = .ok n.fields :=
    optional_of_encoded hfs (by simp) (fun _ => isNull_arr hview _)
      fun fs hsome => list_of_encoded hview (hfields fs hsome)
  have h₅ : optional ["id"] none (nullable text) (mapValues view n.toMembers) = .ok n.id :=
    optional_of_encoded hid (by simp) (isNull_str hview) fun s _ => text_of_encoded hview s
  have h₆ : optional ["arrayTypes", "array_types"] none (nullable (list (typeNode room [])))
      (mapValues view n.toMembers) = .ok n.arrayTypes :=
    optional_of_encoded hts (by simpa using hts') (fun _ => isNull_arr hview _)
      fun ts hsome => list_of_encoded hview (htypes ts hsome)
  rw [TypeNode.toJson_eq, typeNode, nested_of_encoded hview, h₁, h₂, h₃, h₄, h₅, h₆]
  obtain ⟨tag, startsWith, possibleValues, fields, id, arrayTypes⟩ := n
  rfl

theorem typeField_of_parts {room : Nat} {f : TypeField}
    (htypes : ∀ t ∈ f.types, typeNode room [] (view t.toJson) = .ok t) :
    typeField (room + 1) [] (view f.toJson) = .ok f := by
  have hlist := list_of_encoded hview htypes
  obtain ⟨name, types, required, description⟩ := f
  rw [TypeField.toJson_eq, typeField, nested_of_encoded hview]
  refine Checked.ap_eq_ok_iff.2 ⟨_, _, Checked.ap_eq_ok_iff.2 ⟨_, _, Checked.ap_eq_ok_iff.2 ⟨_, _,
    Checked.map_eq_ok_iff.2 ⟨name, ?_, rfl⟩, ?_, rfl⟩, ?_, rfl⟩, ?_, rfl⟩
  · exact required_of_lookup (v := view (.str name)) rfl (text_of_encoded hview name)
  · exact required_of_lookup (v := view (.arr (types.map TypeNode.toJson))) rfl hlist
  · exact optional_of_lookup (v := view (.bool required)) rfl (flag_of_encoded hview required)
  · exact optional_of_lookup (v := view (.str description)) rfl (text_of_encoded hview description)

theorem enumValue_toJson (v : EnumValue) : enumValue (view v.toJson) = .ok v := by
  rw [enumValue, EnumValue.toJson, record, hview.obj]
  refine Checked.ap_eq_ok_iff.2 ⟨_, _, Checked.map_eq_ok_iff.2 ⟨v.name, ?_, rfl⟩, ?_, rfl⟩
  · exact required_of_lookup (v := view (.str v.name)) rfl (text_of_encoded hview v.name)
  · exact optional_of_lookup (v := view (.str v.description)) rfl
      (text_of_encoded hview v.description)

end

/-- What nests no deeper than the check follows is decoded as it was.  A level of the value is a
level of the check or a list, so the room of the check is enough. -/
theorem typeNode_typeField_of_within (room : Nat) :
    (∀ n : TypeNode, n.toJson.Within (fun _ => True) room →
      typeNode room [] (Json.Written.mk n.toJson) = .ok n)
    ∧ ∀ f : TypeField, f.toJson.Within (fun _ => True) room →
      typeField room [] (Json.Written.mk f.toJson) = .ok f := by
  induction room with
  | zero =>
    constructor
    · intro n h
      rw [TypeNode.toJson_eq, Json.within_obj_iff] at h
      rcases h with hnil | ⟨d, hd, -⟩
      · simp [TypeNode.toMembers] at hnil
      · exact absurd hd (Nat.succ_ne_zero d).symm
    · intro f h
      rw [TypeField.toJson_eq, Json.within_obj_iff] at h
      rcases h with hnil | ⟨d, hd, -⟩
      · simp [TypeField.toMembers] at hnil
      · exact absurd hd (Nat.succ_ne_zero d).symm
  | succ room ih =>
    obtain ⟨ihNode, ihField⟩ := ih
    constructor
    · intro n h
      rw [TypeNode.toJson_eq] at h
      obtain ⟨-, -, -, hfs, -, hts, -⟩ := n.lookup_toMembers
      apply typeNode_of_parts Json.Written.shown
      · intro fs hsome f hf
        rw [hsome] at hfs
        have harr := h _ (mem_of_lookup_eq_some hfs)
        exact ihField f (harr.item f.toJson (List.mem_map_of_mem hf))
      · intro ts hsome t ht
        rw [hsome] at hts
        have harr := h _ (mem_of_lookup_eq_some hts)
        exact ihNode t (harr.item t.toJson (List.mem_map_of_mem ht))
    · intro f h
      rw [TypeField.toJson_eq] at h
      apply typeField_of_parts Json.Written.shown
      intro t ht
      have harr := h ("type", .arr (f.types.map TypeNode.toJson)) (by simp [TypeField.toMembers])
      exact ihNode t (harr.item t.toJson (List.mem_map_of_mem ht))

theorem fields_of_within {fs : List TypeField}
    (h : (Json.arr (TypeField.listToJson fs)).Within (fun _ => True) maxNesting) :
    fields (Json.Written.mk (.arr (TypeField.listToJson fs))) = .ok fs := by
  rw [TypeField.listToJson_eq] at h ⊢
  apply list_of_encoded Json.Written.shown
  intro f hf
  exact (typeNode_typeField_of_within maxNesting).2 f (h.item f.toJson (List.mem_map_of_mem hf))

end Decode

/-! ### References that were encoded -/

theorem Reference.lookup_toMembers (r : Reference) :
    r.toMembers.lookup "product" = some (.str r.product)
    ∧ r.toMembers.lookup "parent" = r.parent.map .str
    ∧ r.toMembers.lookup "id" = some (.str r.id)
    ∧ r.toMembers.lookup "name" = some (.str r.name)
    ∧ r.toMembers.lookup "description" = some (.str r.description)
    ∧ r.toMembers.lookup "kind" = some (.str r.kind) := by
  have hparent : r.content.toMembers.lookup "parent" = none := by cases r.content <;> rfl
  simp [toMembers, List.lookup_append, List.lookup_cons, hparent]

/-- The members of one kind are found behind those of all kinds. -/
theorem Reference.lookup_content (r : Reference) :
    ∀ k ∈ r.content.keys, r.toMembers.lookup k = r.content.toMembers.lookup k := by
  intro k hk
  have hother : ∀ k' ∈ ["product", "parent", "id", "name", "description", "kind"], k ≠ k' := by
    revert k
    cases r.content <;> rw [Content.keys] <;> decide
  simp only [List.forall_mem_cons] at hother
  obtain ⟨h₁, h₂, h₃, h₄, h₅, h₆, -⟩ := hother
  simp [toMembers, List.lookup_append, List.lookup_cons, beq_eq_false_iff_ne.2, h₁, h₂, h₃, h₄, h₅,
    h₆]

/-- The kind by which a content is decoded. -/
def Content.decodedBy : Content → Decode.Kind
  | .type _ => .type
  | .enum _ => .enum
  | .request _ => .request

theorem Content.kind?_kind (c : Content) : Decode.kind? c.kind = some c.decodedBy := by
  cases c <;> rfl

namespace Decode

/-- The content of a reference is decoded as it was. -/
theorem content_of_within {c : Content} {ms : Json.Members}
    (hlookup : ∀ k ∈ c.keys, ms.lookup k = c.toMembers.lookup k)
    (h : ∀ m ∈ c.toMembers, m.2.Within (fun _ => True) maxNesting) :
    content (Json.Written.members ms) c.decodedBy = .ok c := by
  have hmember : ∀ m ∈ c.toMembers, c.toMembers.lookup m.1 = some m.2 →
      (Json.Written.members ms).lookup m.1 = some ⟨m.2⟩ := by
    intro m hm hself
    have hkey : m.1 ∈ c.keys := by
      rw [← Content.map_fst_toMembers]
      exact List.mem_map_of_mem hm
    rw [Json.Written.lookup_members, hlookup m.1 hkey, hself]
    rfl
  have hfields : ∀ {k : String} {fs : List TypeField},
      (k, Json.arr (TypeField.listToJson fs)) ∈ c.toMembers →
      c.toMembers.lookup k = some (.arr (TypeField.listToJson fs)) →
      optional [k] [] fields (Json.Written.members ms) = .ok fs := by
    intro k fs hm hself
    exact optional_of_lookup (hmember _ hm hself) (fields_of_within (h _ hm))
  cases c with
  | type fs =>
    have hfs : optional ["fields"] [] fields (Json.Written.members ms) = .ok fs :=
      hfields (by simp [Content.toMembers]) rfl
    rw [Content.decodedBy, content, hfs]
    rfl
  | enum vs =>
    have hvs : optional ["values"] [] (list enumValue) (Json.Written.members ms) = .ok vs :=
      optional_of_lookup
        (hmember ("values", .arr (vs.map EnumValue.toJson)) (by simp [Content.toMembers]) rfl)
        (list_of_encoded Json.Written.shown fun v _ => enumValue_toJson Json.Written.shown v)
    rw [Content.decodedBy, content, hvs]
    rfl
  | request r =>
    have hmethod : required ["method"] text (Json.Written.members ms) = .ok r.method :=
      required_of_lookup (hmember ("method", .str r.method) (by simp [Content.toMembers]) rfl) rfl
    have hpath : required ["path"] text (Json.Written.members ms) = .ok r.path :=
      required_of_lookup (hmember ("path", .str r.path) (by simp [Content.toMembers]) rfl) rfl
    have hparams : optional ["params"] [] fields (Json.Written.members ms) = .ok r.params :=
      hfields (by simp [Content.toMembers]) rfl
    have hbody : optional ["body"] [] fields (Json.Written.members ms) = .ok r.body :=
      hfields (by simp [Content.toMembers]) rfl
    have hquery : optional ["query"] [] fields (Json.Written.members ms) = .ok r.query :=
      hfields (by simp [Content.toMembers]) rfl
    have hheaders : optional ["headers"] [] fields (Json.Written.members ms) = .ok r.headers :=
      hfields (by simp [Content.toMembers]) rfl
    rw [Content.decodedBy, content, request, hmethod, hpath, hparams, hbody, hquery, hheaders]
    rfl

/-- A reference that nests no deeper than the check follows is decoded as it was. -/
theorem reference_of_within {r : Reference}
    (h : ∀ m ∈ r.content.toMembers, m.2.Within (fun _ => True) maxNesting) :
    reference (Json.Written.mk r.toJson) = .ok r := by
  obtain ⟨hproduct, hparent, hid, hname, hdescription, hkind⟩ := r.lookup_toMembers
  have hpresent {k s : String} (hk : r.toMembers.lookup k = some (.str s)) :
      (Json.Written.members r.toMembers).lookup k = some ⟨.str s⟩ := by
    rw [Json.Written.lookup_members, hk]
    rfl
  have hkindOf : kindOf (Json.Written.mk (.str r.kind)) = .ok (r.kind, r.content.decodedBy) := by
    simp [kindOf, shape, Shape.map, Reference.kind, Content.kind?_kind]
  have h₁ : required ["product"] text (Json.Written.members r.toMembers) = .ok r.product :=
    required_of_lookup (hpresent hproduct) rfl
  have h₂ : optional ["parent"] none (nullable text) (Json.Written.members r.toMembers) =
      .ok r.parent :=
    optional_of_encoded hparent (by simp) (fun _ => rfl) fun s _ => rfl
  have h₃ : required ["id"] text (Json.Written.members r.toMembers) = .ok r.id :=
    required_of_lookup (hpresent hid) rfl
  have h₄ : required ["name"] text (Json.Written.members r.toMembers) = .ok r.name :=
    required_of_lookup (hpresent hname) rfl
  have h₅ : optional ["description"] "" text (Json.Written.members r.toMembers) =
      .ok r.description :=
    optional_of_lookup (hpresent hdescription) rfl
  have h₆ := content_of_within r.lookup_content h
  have hreference : referenceOf r.content.decodedBy (Json.Written.members r.toMembers) = .ok r := by
    rw [referenceOf, h₁, h₂, h₃, h₄, h₅, h₆]
    rfl
  have hshape : shape (Json.Written.mk r.toJson) = .record (Json.Written.members r.toMembers) := rfl
  rw [reference, hshape]
  simp only [referenceFrom, hpresent hkind, hkindOf, hreference, Checked.under_ok]

end Decode

end ClientScribe
