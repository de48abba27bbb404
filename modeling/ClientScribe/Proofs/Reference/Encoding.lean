import ClientScribe.Proofs.Json.ReadBack
import ClientScribe.Proofs.Reference.Tree
import ClientScribe.Reference.Codec

/-!
The members that types, fields and references are written with, and that these can be written: their
keys are known, and no record has one twice.
-/

namespace ClientScribe

/-! ### Members that may be left out -/

namespace Json

@[simp] theorem mem_member? {k : String} {o : Option Json} {m : String × Json} :
    m ∈ member? k o ↔ ∃ v, o = some v ∧ m = (k, v) := by
  cases o <;> simp [member?]

@[simp] theorem mem_text? {k : String} {o : Option String} {m : String × Json} :
    m ∈ text? k o ↔ ∃ s, o = some s ∧ m = (k, .str s) := by
  cases o <;> simp [text?, member?]

theorem keys_member?_sublist (k : String) (o : Option Json) :
    ((member? k o).map Prod.fst).Sublist [k] := by
  cases o with
  | none => exact List.nil_sublist [k]
  | some v => exact List.Sublist.refl [k]

/-- An object can be written if its keys are among some that are storable and distinct. -/
theorem Writable.of_keys_sublist {keys : List String} {ms : Members}
    (hkeys : (ms.map Prod.fst).Sublist keys) (hdistinct : keys.Nodup)
    (hstorable : keys.all Text.isStorable = true) (hvalues : ∀ m ∈ ms, Writable m.2) :
    Writable (.obj ms) := by
  refine .obj (hkeys.nodup hdistinct) ?_ hvalues
  intro m hm
  have hmem : m.1 ∈ keys := hkeys.subset (List.mem_map_of_mem hm)
  exact List.all_eq_true.1 hstorable m.1 hmem

theorem Writable.arr_map {α : Type} {f : α → Json} {as : List α} (h : ∀ a ∈ as, Writable (f a)) :
    Writable (.arr (as.map f)) := by
  apply Writable.arr
  intro v hv
  obtain ⟨a, ha, rfl⟩ := List.mem_map.1 hv
  exact h a ha

end Json

/-! ### Types and fields -/

theorem TypeNode.listToJson_eq (ts : List TypeNode) : listToJson ts = ts.map toJson := by
  induction ts with
  | nil => rfl
  | cons t ts ih => rw [listToJson, ih, List.map_cons]

theorem TypeField.listToJson_eq (fs : List TypeField) : listToJson fs = fs.map toJson := by
  induction fs with
  | nil => rfl
  | cons f fs ih => rw [listToJson, ih, List.map_cons]

/-- The members of a type. -/
def TypeNode.toMembers (n : TypeNode) : Json.Members :=
  ("type", .str n.tag) :: Json.text? "startsWith" n.startsWith
    ++ Json.member? "possibleValues" (n.possibleValues.map fun vs => .arr (vs.map .str))
    ++ Json.member? "fields" (n.fields.map fun fs => .arr (fs.map TypeField.toJson))
    ++ Json.text? "id" n.id
    ++ Json.member? "arrayTypes" (n.arrayTypes.map fun ts => .arr (ts.map TypeNode.toJson))

theorem TypeNode.toJson_eq (n : TypeNode) : n.toJson = .obj n.toMembers := by
  obtain ⟨tag, startsWith, possibleValues, fields, id, arrayTypes⟩ := n
  cases fields <;> cases arrayTypes <;>
    simp [toJson, toMembers, toJson?, TypeField.toJson?, listToJson_eq, TypeField.listToJson_eq]

/-- The keys of a type, in their order. -/
def TypeNode.keys : List String :=
  ["type", "startsWith", "possibleValues", "fields", "id", "arrayTypes"]

theorem TypeNode.keys_sublist (n : TypeNode) : (n.toMembers.map Prod.fst).Sublist keys := by
  simp only [toMembers, List.map_append, List.map_cons]
  exact ((((List.Sublist.cons_cons "type" (Json.keys_member?_sublist "startsWith" _)).append
    (Json.keys_member?_sublist "possibleValues" _)).append
    (Json.keys_member?_sublist "fields" _)).append
    (Json.keys_member?_sublist "id" _)).append (Json.keys_member?_sublist "arrayTypes" _)

/-- What holds of everything that a type may hold holds of its members. -/
theorem TypeNode.forall_mem_toMembers {P : Json → Prop} {n : TypeNode} (tag : P (.str n.tag))
    (startsWith : ∀ s, n.startsWith = some s → P (.str s))
    (possibleValues : ∀ vs, n.possibleValues = some vs → P (.arr (vs.map .str)))
    (fields : ∀ fs, n.fields = some fs → P (.arr (fs.map TypeField.toJson)))
    (id : ∀ s, n.id = some s → P (.str s))
    (arrayTypes : ∀ ts, n.arrayTypes = some ts → P (.arr (ts.map TypeNode.toJson))) :
    ∀ m ∈ n.toMembers, P m.2 := by
  intro m hm
  simp only [toMembers, List.cons_append, List.mem_cons, List.mem_append, Json.mem_text?,
    Json.mem_member?, Option.map_eq_some_iff] at hm
  rcases hm with
    rfl | (((⟨s, hs, rfl⟩ | ⟨v, ⟨vs, hvs, rfl⟩, rfl⟩) | ⟨v, ⟨fs, hfs, rfl⟩, rfl⟩) | ⟨s, hs, rfl⟩)
      | ⟨v, ⟨ts, hts, rfl⟩, rfl⟩
  · exact tag
  · exact startsWith s hs
  · exact possibleValues vs hvs
  · exact fields fs hfs
  · exact id s hs
  · exact arrayTypes ts hts

/-- The members of a field. -/
def TypeField.toMembers (f : TypeField) : Json.Members :=
  [("name", .str f.name), ("type", .arr (f.types.map TypeNode.toJson)),
    ("required", .bool f.required), ("description", .str f.description)]

theorem TypeField.toJson_eq (f : TypeField) : f.toJson = .obj f.toMembers := by
  obtain ⟨name, types, required, description⟩ := f
  rw [toJson, TypeNode.listToJson_eq, toMembers]

theorem TypeField.forall_mem_toMembers {P : Json → Prop} {f : TypeField} (name : P (.str f.name))
    (types : P (.arr (f.types.map TypeNode.toJson))) (required : P (.bool f.required))
    (description : P (.str f.description)) : ∀ m ∈ f.toMembers, P m.2 := by
  intro m hm
  simp only [toMembers, List.mem_cons, List.not_mem_nil, or_false] at hm
  rcases hm with rfl | rfl | rfl | rfl
  · exact name
  · exact types
  · exact required
  · exact description

theorem TypeNode.writable_of_parts (n : TypeNode)
    (hfields : ∀ fs, n.fields = some fs → ∀ f ∈ fs, f.toJson.Writable)
    (htypes : ∀ ts, n.arrayTypes = some ts → ∀ t ∈ ts, t.toJson.Writable) : n.toJson.Writable := by
  rw [toJson_eq]
  refine .of_keys_sublist n.keys_sublist (by decide) (by decide) ?_
  apply forall_mem_toMembers
  · exact .str n.tag
  · exact fun s _ => .str s
  · exact fun vs _ => .arr_map fun v _ => .str v
  · exact fun fs hfs => .arr_map (hfields fs hfs)
  · exact fun s _ => .str s
  · exact fun ts hts => .arr_map (htypes ts hts)

theorem TypeField.writable_of_parts (f : TypeField) (htypes : ∀ t ∈ f.types, t.toJson.Writable) :
    f.toJson.Writable := by
  rw [toJson_eq]
  have hkeys : (f.toMembers.map Prod.fst).Sublist ["name", "type", "required", "description"] :=
    List.Sublist.refl _
  refine .of_keys_sublist hkeys (by decide) (by decide) ?_
  apply forall_mem_toMembers
  · exact .str f.name
  · exact .arr_map htypes
  · exact .bool f.required
  · exact .str f.description

/-- Every field can be written. -/
theorem TypeField.writable (f : TypeField) : f.toJson.Writable :=
  TypeField.induction TypeNode.writable_of_parts TypeField.writable_of_parts f

theorem TypeField.writable_list (fs : List TypeField) : (Json.arr (listToJson fs)).Writable := by
  rw [listToJson_eq]
  exact .arr_map fun f _ => f.writable

/-! ### References -/

/-- The keys that only references of one kind have. -/
def Content.keys : Content → List String
  | .type _ => ["fields"]
  | .enum _ => ["values"]
  | .request _ => ["method", "path", "params", "body", "query", "headers"]

theorem Content.map_fst_toMembers (c : Content) : c.toMembers.map Prod.fst = c.keys := by
  cases c <;> rfl

theorem EnumValue.writable (v : EnumValue) : v.toJson.Writable := by
  refine .of_keys_sublist (List.Sublist.refl ["name", "description"]) (by decide) (by decide) ?_
  intro m hm
  simp only [List.mem_cons, List.not_mem_nil, or_false] at hm
  rcases hm with rfl | rfl
  · exact .str v.name
  · exact .str v.description

/-- What holds of everything that a request may hold holds of its members. -/
theorem Content.forall_mem_toMembers_request {P : Json → Prop} {r : Request}
    (method : P (.str r.method)) (path : P (.str r.path))
    (params : P (.arr (TypeField.listToJson r.params)))
    (body : P (.arr (TypeField.listToJson r.body)))
    (query : P (.arr (TypeField.listToJson r.query)))
    (headers : P (.arr (TypeField.listToJson r.headers))) :
    ∀ m ∈ (Content.request r).toMembers, P m.2 := by
  intro m hm
  simp only [toMembers, List.mem_cons, List.not_mem_nil, or_false] at hm
  rcases hm with rfl | rfl | rfl | rfl | rfl | rfl
  · exact method
  · exact path
  · exact params
  · exact body
  · exact query
  · exact headers

theorem Content.writable_members (c : Content) : ∀ m ∈ c.toMembers, m.2.Writable := by
  cases c with
  | type fields =>
    intro m hm
    rw [toMembers, List.mem_singleton] at hm
    subst hm
    exact TypeField.writable_list fields
  | enum values =>
    intro m hm
    rw [toMembers, List.mem_singleton] at hm
    subst hm
    exact .arr_map fun v _ => v.writable
  | request r =>
    apply forall_mem_toMembers_request
    · exact .str r.method
    · exact .str r.path
    · exact TypeField.writable_list r.params
    · exact TypeField.writable_list r.body
    · exact TypeField.writable_list r.query
    · exact TypeField.writable_list r.headers

theorem Reference.keys_sublist (r : Reference) :
    (r.toMembers.map Prod.fst).Sublist
      (["product", "parent", "id", "name", "description", "kind"] ++ r.content.keys) := by
  rw [toMembers, List.map_append, List.map_append, List.map_cons, Content.map_fst_toMembers]
  exact ((List.Sublist.cons_cons "product" (Json.keys_member?_sublist "parent" _)).append
    (List.Sublist.refl ["id", "name", "description", "kind"])).append (List.Sublist.refl _)

/-- What holds of everything that a reference may hold holds of its members. -/
theorem Reference.forall_mem_toMembers {P : Json → Prop} {r : Reference}
    (product : P (.str r.product)) (parent : ∀ s, r.parent = some s → P (.str s))
    (id : P (.str r.id)) (name : P (.str r.name)) (description : P (.str r.description))
    (kind : P (.str r.kind)) (content : ∀ m ∈ r.content.toMembers, P m.2) :
    ∀ m ∈ r.toMembers, P m.2 := by
  intro m hm
  simp only [toMembers, List.cons_append, List.mem_cons, List.mem_append, Json.mem_text?,
    List.not_mem_nil, or_false] at hm
  rcases hm with rfl | (⟨s, hs, rfl⟩ | rfl | rfl | rfl | rfl) | hm
  · exact product
  · exact parent s hs
  · exact id
  · exact name
  · exact description
  · exact kind
  · exact content m hm

/-- Every reference can be written. -/
theorem Reference.writable (r : Reference) : r.toJson.Writable := by
  refine .of_keys_sublist r.keys_sublist ?_ ?_ ?_
  · cases r.content <;> rw [Content.keys] <;> decide
  · cases r.content <;> rw [Content.keys] <;> decide
  · apply forall_mem_toMembers
    · exact .str r.product
    · exact fun s _ => .str s
    · exact .str r.id
    · exact .str r.name
    · exact .str r.description
    · exact .str r.kind
    · exact r.content.writable_members

end ClientScribe
