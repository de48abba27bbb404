import ClientScribe.Proofs.Reference.Nesting
import ClientScribe.Proofs.Reference.Override

/-!
References that are patched.  A patch is checked member by member: what it sets is checked by
itself, what it does not set is what it was.
-/

namespace ClientScribe

open View (shape)

/-! ### Checks that answer alike -/

namespace Decode

variable {β γ : Type} [View β] [View γ] {f : β → γ} (hf : View.Hom f)

include hf

theorem typeNode_typeField_hom (room : Nat) :
    (∀ around v, typeNode room around (f v) = typeNode room around v)
    ∧ ∀ around v, typeField room around (f v) = typeField room around v := by
  have htext := text_hom hf
  induction room with
  | zero => exact ⟨fun _ _ => rfl, fun _ _ => rfl⟩
  | succ room ih =>
    obtain ⟨ihNode, ihField⟩ := ih
    constructor
    · intro around v
      rw [typeNode, typeNode]
      apply nested_hom hf
      intro around members
      rw [required_hom htext, optional_hom (nullable_hom hf htext),
        optional_hom (nullable_hom hf (list_hom hf htext)),
        optional_hom (nullable_hom hf (list_hom hf (ihField around))),
        optional_hom (nullable_hom hf htext),
        optional_hom (nullable_hom hf (list_hom hf (ihNode around)))]
    · intro around v
      rw [typeField, typeField]
      apply nested_hom hf
      intro around members
      rw [required_hom htext, required_hom (list_hom hf (ihNode around)),
        optional_hom (flag_hom hf), optional_hom htext]

theorem fields_hom (v : β) : fields (f v) = fields v :=
  list_hom hf ((typeNode_typeField_hom hf maxNesting).2 []) v

theorem enumValue_hom (v : β) : enumValue (f v) = enumValue v := by
  apply record_hom hf
  intro members
  rw [required_hom (text_hom hf), optional_hom (text_hom hf)]

end Decode

/-- The keys of a reference. -/
def Reference.keys (r : Reference) : List String :=
  ["product", "parent", "id", "name", "description", "kind"] ++ r.content.keys

/-! ### One member -/

namespace Patch

open Decode

variable {α β : Type} {members : List (String × β)} {key : String}

/-- The value to which a patch sets a member. -/
def value? (members : List (String × β)) (key : String) : Option β := members.reverse.lookup key

theorem mem_keys_of_value? {v : β} (h : value? members key = some v) :
    key ∈ members.map Prod.fst :=
  List.mem_map.2 ⟨(key, v), List.mem_reverse.1 (mem_of_lookup_eq_some h), rfl⟩

/-- A member that a patch sets is the checked value, and any other one is what it was. -/
def Sets (members : List (String × β)) (key : String) (check : β → Checked α) (own new : α) :
    Prop :=
  match value? members key with
  | some v => check v = .ok new
  | none => new = own

/-- The check of a member after a patch. -/
def part (members : List (String × β)) (key : String) (check : β → Checked α) (own : α) :
    Checked α :=
  match value? members key with
  | some v => (check v).under (.key key)
  | none => .ok own

theorem part_eq_ok_iff {check : β → Checked α} {own new : α} :
    part members key check own = .ok new ↔ Sets members key check own new := by
  rw [part, Sets]
  cases value? members key with
  | none => simp [eq_comm]
  | some v => exact Checked.under_eq_ok_iff

theorem isOk_part {check : β → Checked α} {own : α} :
    (part members key check own).isOk = true ↔
      ∀ v, value? members key = some v → (check v).isOk = true := by
  rw [part]
  cases value? members key with
  | none => simp [Checked.isOk]
  | some v => simp

/-- An issue in a member that a patch sets. -/
def Blames (members : List (String × β)) (i : Issue) : Prop :=
  ∃ k ∈ members.map Prod.fst, ∃ rest, i.path = .key k :: rest

theorem blames_of_mem_issues_part {check : β → Checked α} {own : α} {i : Issue}
    (h : i ∈ (part members key check own).issues) : Blames members i := by
  rw [part] at h
  split at h
  · rename_i v hv
    rw [Checked.issues_under] at h
    obtain ⟨j, -, rfl⟩ := List.mem_map.1 h
    exact ⟨key, mem_keys_of_value? hv, j.path, rfl⟩
  · exact absurd h List.not_mem_nil

/-! ### All members -/

/-- The members of a reference after a patch. -/
def merged (members : List (String × β)) (r : Reference) : List (String × (Json ⊕ β)) :=
  Json.override (mapValues .inl r.toMembers) (mapValues .inr members)

theorem lookup_merged (members : List (String × β)) (r : Reference) (key : String) :
    (merged members r).lookup key =
      ((value? members key).map .inr).or ((r.toMembers.lookup key).map .inl) := by
  rw [merged, Json.lookup_override, lookup_mapValues, mapValues, ← List.map_reverse,
    Json.lookup_map, value?]

theorem lookup_merged_of_set {members : List (String × β)} {key : String} {v : β}
    (h : value? members key = some v) (r : Reference) :
    (merged members r).lookup key = some (.inr v) := by
  rw [lookup_merged, h]
  rfl

section

variable {r : Reference} {check : β → Checked α} {check' : Json ⊕ β → Checked α}

theorem required_merged (hset : ∀ v, check' (.inr v) = check v) {own : α} {j : Json}
    (hown : r.toMembers.lookup key = some j) (hread : check' (.inl j) = .ok own) :
    required [key] check' (merged members r) = part members key check own := by
  have hlookup := lookup_merged members r key
  rw [hown] at hlookup
  rw [part]
  cases hvalue : value? members key with
  | none =>
    rw [hvalue] at hlookup
    rw [required_eq_of_lookup hlookup, hread, Checked.under_ok]
  | some v =>
    rw [hvalue] at hlookup
    rw [required_eq_of_lookup hlookup, hset]

theorem optional_merged (hset : ∀ v, check' (.inr v) = check v) {own default : α}
    (hown : ∀ j, r.toMembers.lookup key = some j → check' (.inl j) = .ok own)
    (hdefault : r.toMembers.lookup key = none → own = default) :
    optional [key] default check' (merged members r) = part members key check own := by
  have hlookup := lookup_merged members r key
  rw [part]
  cases hvalue : value? members key with
  | some v =>
    rw [hvalue] at hlookup
    rw [optional_eq_of_lookup hlookup, hset]
  | none =>
    rw [hvalue] at hlookup
    cases hmember : r.toMembers.lookup key with
    | some j =>
      rw [hmember] at hlookup
      rw [optional_eq_of_lookup hlookup, hown j hmember, Checked.under_ok]
    | none =>
      rw [hmember] at hlookup
      rw [optional_of_absent (by simpa using hlookup), hdefault hmember]

/-- A member that every reference of the kind has is read from it or from the patch. -/
theorem optional_merged_of_some (hset : ∀ v, check' (.inr v) = check v) {own default : α} {j : Json}
    (hown : r.toMembers.lookup key = some j) (hread : check' (.inl j) = .ok own) :
    optional [key] default check' (merged members r) = part members key check own := by
  apply optional_merged hset
  · intro j' hj'
    rw [hown, Option.some.injEq] at hj'
    exact hj' ▸ hread
  · exact fun hnone => absurd (hown.symm.trans hnone) (by simp)

/-- What is read after a patch is what the patch sets. -/
theorem sets_self_of_required (hset : ∀ v, check' (.inr v) = check v) {a : α}
    (h : required [key] check' (merged members r) = .ok a) : Sets members key check a a := by
  rw [Sets]
  split
  · rename_i v hv
    rwa [required_eq_of_lookup (lookup_merged_of_set hv r), Checked.under_eq_ok_iff, hset] at h
  · rfl

theorem sets_self_of_optional (hset : ∀ v, check' (.inr v) = check v) {a default : α}
    (h : optional [key] default check' (merged members r) = .ok a) :
    Sets members key check a a := by
  rw [Sets]
  split
  · rename_i v hv
    rwa [optional_eq_of_lookup (lookup_merged_of_set hv r), Checked.under_eq_ok_iff, hset] at h
  · rfl

end

section

variable [View β]

/-- The content of a reference after a patch. -/
def checkedContent (members : List (String × β)) : Content → Checked Content
  | .type fs => (part members "fields" fields fs).map .type
  | .enum vs => (part members "values" (list enumValue) vs).map .enum
  | .request q =>
    (Checked.ap (Checked.ap (Checked.ap (Checked.ap (Checked.ap (Checked.map Request.mk
      (part members "method" text q.method))
      (part members "path" text q.path))
      (part members "params" fields q.params))
      (part members "body" fields q.body))
      (part members "query" fields q.query))
      (part members "headers" fields q.headers)).map .request

/-- A reference after a patch, each member by itself. -/
def checked (members : List (String × β)) (r : Reference) : Checked Reference :=
  Checked.ap (Checked.ap (Checked.ap (Checked.ap (Checked.ap (Checked.map Reference.mk
    (part members "product" text r.product))
    (part members "parent" (nullable text) r.parent))
    (part members "id" text r.id))
    (part members "name" text r.name))
    (part members "description" text r.description))
    (checkedContent members r.content)

variable {r : Reference}

theorem content_merged (members : List (String × β)) (hnesting : r.content.nesting ≤ maxNesting) :
    content (merged members r) r.content.decodedBy = checkedContent members r.content := by
  have hlookup := r.lookup_content
  obtain ⟨product, parent, id, name, description, content⟩ := r
  have hfields {k : String} {fs : List TypeField} (hkey : k ∈ content.keys)
      (hown : content.toMembers.lookup k = some (.arr (TypeField.listToJson fs)))
      (hfs : TypeField.nestingOf fs ≤ maxNesting) :
      optional [k] [] fields (merged members ⟨product, parent, id, name, description, content⟩) =
        part members k fields fs :=
    optional_merged_of_some (fields_hom View.hom_inr) ((hlookup k hkey).trans hown)
      (fields_of_nesting Json.shown_inl hfs)
  cases content with
  | type fs =>
    have hfs := hfields (k := "fields") (by simp [Content.keys]) rfl hnesting
    rw [Content.decodedBy, Decode.content, hfs, checkedContent]
  | enum vs =>
    have hvs : optional ["values"] [] (list enumValue) (merged members
        ⟨product, parent, id, name, description, .enum vs⟩) =
          part members "values" (list enumValue) vs :=
      optional_merged_of_some (list_hom View.hom_inr (enumValue_hom View.hom_inr))
        (hlookup "values" (by simp [Content.keys]))
        (list_of_encoded Json.shown_inl fun v _ => enumValue_toJson Json.shown_inl v)
    rw [Content.decodedBy, Decode.content, hvs, checkedContent]
  | request q =>
    have htext {k t : String} (hkey : k ∈ (Content.request q).keys)
        (hown : (Content.request q).toMembers.lookup k = some (.str t)) :
        required [k] text (merged members ⟨product, parent, id, name, description, .request q⟩) =
          part members k text t :=
      required_merged (text_hom View.hom_inr) ((hlookup k hkey).trans hown)
        (text_of_encoded Json.shown_inl t)
    have hall : ∀ f ∈ q.fields, f.nesting ≤ maxNesting := TypeField.nestingOf_le_iff.1 hnesting
    simp only [Request.fields, List.forall_mem_append, ← TypeField.nestingOf_le_iff] at hall
    obtain ⟨⟨⟨hparams, hbody⟩, hquery⟩, hheaders⟩ := hall
    have h₁ := htext (k := "method") (by simp [Content.keys]) rfl
    have h₂ := htext (k := "path") (by simp [Content.keys]) rfl
    have h₃ := hfields (k := "params") (by simp [Content.keys]) rfl hparams
    have h₄ := hfields (k := "body") (by simp [Content.keys]) rfl hbody
    have h₅ := hfields (k := "query") (by simp [Content.keys]) rfl hquery
    have h₆ := hfields (k := "headers") (by simp [Content.keys]) rfl hheaders
    rw [Content.decodedBy, Decode.content, request, h₁, h₂, h₃, h₄, h₅, h₆, checkedContent]

theorem referenceOf_merged (members : List (String × β))
    (hnesting : r.content.nesting ≤ maxNesting) :
    referenceOf r.content.decodedBy (merged members r) = checked members r := by
  obtain ⟨hproduct, hparent, hid, hname, hdescription, -⟩ := r.lookup_toMembers
  have htext {k t : String} (hown : r.toMembers.lookup k = some (.str t)) :
      required [k] text (merged members r) = part members k text t :=
    required_merged (text_hom View.hom_inr) hown (text_of_encoded Json.shown_inl t)
  have hmaybe : optional ["parent"] none (nullable text) (merged members r) =
      part members "parent" (nullable text) r.parent := by
    apply optional_merged (nullable_hom View.hom_inr (text_hom View.hom_inr))
    · intro j hj
      rw [hparent] at hj
      obtain ⟨t, ht, rfl⟩ := Option.map_eq_some_iff.1 hj
      rw [ht, nullable_eq_ok_iff]
      exact .inr ⟨isNull_str Json.shown_inl t, t, text_of_encoded Json.shown_inl t, rfl⟩
    · intro hnone
      rw [hparent] at hnone
      exact Option.map_eq_none_iff.1 hnone
  have hmayMiss : optional ["description"] "" text (merged members r) =
      part members "description" text r.description :=
    optional_merged_of_some (text_hom View.hom_inr) hdescription
      (text_of_encoded Json.shown_inl r.description)
  rw [referenceOf, htext hproduct, hmaybe, htext hid, htext hname, hmayMiss,
    content_merged members hnesting, checked]

/-- The patch does not set another kind. -/
def KeepsKind (members : List (String × β)) (r : Reference) : Prop :=
  ∀ v, value? members "kind" = some v → shape v = .text r.kind

theorem ofMembers_eq_referenceFrom {members : List (String × β)} (h : members ≠ [])
    (hnesting : r.content.nesting ≤ maxNesting) :
    ofMembers members r = referenceFrom (merged members r) := by
  rw [ofMembers, if_neg (by simpa using h), if_neg (Nat.not_lt.2 hnesting)]
  rfl

/-- Types that are too deep to be written are no issue of the patch. -/
theorem ofMembers_of_deep {members : List (String × β)} (h : members ≠ [])
    (hdeep : maxNesting < r.content.nesting) : ofMembers members r = .refuse .unwritable := by
  rw [ofMembers, if_neg (by simpa using h), if_pos hdeep]

theorem nesting_le_of_ofMembers {members : List (String × β)} {s : Reference} (hne : members ≠ [])
    (h : ofMembers members r = .ok s) : r.content.nesting ≤ maxNesting := by
  refine Nat.not_lt.1 fun hdeep => ?_
  rw [ofMembers_of_deep hne hdeep] at h
  exact absurd h (by simp [Checked.refuse])

/-- The kind that is read after such a patch is that of the reference. -/
theorem kindOf_merged {members : List (String × β)} (hkind : KeepsKind members r) :
    ∃ v, (merged members r).lookup "kind" = some v
      ∧ kindOf v = .ok (r.kind, r.content.decodedBy) := by
  have hkindOf (v : Json ⊕ β) (hv : shape v = .text r.kind) :
      kindOf v = .ok (r.kind, r.content.decodedBy) := by
    simp only [kindOf, hv, Reference.kind, Content.kind?_kind]
  obtain ⟨-, -, -, -, -, hown⟩ := r.lookup_toMembers
  rw [lookup_merged, hown]
  cases hvalue : value? members "kind" with
  | none => exact ⟨_, rfl, hkindOf _ rfl⟩
  | some v =>
    refine ⟨.inr v, rfl, hkindOf _ ?_⟩
    rw [View.hom_inr.shape_eq, hkind v hvalue]
    rfl

/-- A patch is checked member by member, and the kind is the first step of the path to an issue. -/
theorem ofMembers_eq_checked {members : List (String × β)} (hkind : KeepsKind members r)
    (hnesting : r.content.nesting ≤ maxNesting) :
    ofMembers members r = (checked members r).under (.key r.kind) := by
  by_cases hempty : members = []
  · subst hempty
    obtain ⟨product, parent, id, name, description, content⟩ := r
    cases content <;> rfl
  · obtain ⟨v, hlookup, hkindOf⟩ := kindOf_merged hkind
    rw [ofMembers_eq_referenceFrom hempty hnesting, referenceFrom, hlookup]
    simp only [hkindOf, referenceOf_merged members hnesting]

/-! ### What a patched reference is -/

/-- Each part of a content is what a patch makes of it. -/
def SetsContent (members : List (String × β)) : Content → Content → Prop
  | .type fs, .type gs => Sets members "fields" fields fs gs
  | .enum vs, .enum ws => Sets members "values" (list enumValue) vs ws
  | .request q, .request p =>
    Sets members "method" text q.method p.method
    ∧ Sets members "path" text q.path p.path
    ∧ Sets members "params" fields q.params p.params
    ∧ Sets members "body" fields q.body p.body
    ∧ Sets members "query" fields q.query p.query
    ∧ Sets members "headers" fields q.headers p.headers
  | _, _ => False

/-- Each member of `s` is what a patch makes of that member of `r`. -/
structure Patched (members : List (String × β)) (r s : Reference) : Prop where
  product : Sets members "product" text r.product s.product
  parent : Sets members "parent" (nullable text) r.parent s.parent
  id : Sets members "id" text r.id s.id
  name : Sets members "name" text r.name s.name
  description : Sets members "description" text r.description s.description
  content : SetsContent members r.content s.content

variable {members : List (String × β)} {s : Reference}

/-- A content of which a patch sets nothing stays as it is. -/
theorem SetsContent.eq_of_unset {c d : Content} (h : SetsContent members c d)
    (hunset : ∀ key ∈ c.keys, value? members key = none) : d = c := by
  cases c <;> cases d <;>
    simp only [SetsContent, Sets, Content.keys, List.forall_mem_cons] at h hunset
  · simp only [hunset] at h
    rw [h]
  · simp only [hunset] at h
    rw [h]
  · rename_i q p
    obtain ⟨method, path, params, body, query, headers⟩ := p
    simp only [hunset] at h
    obtain ⟨rfl, rfl, rfl, rfl, rfl, rfl⟩ := h
    rfl

theorem checkedContent_eq_ok_iff {c d : Content} :
    checkedContent members c = .ok d ↔ SetsContent members c d := by
  cases c with
  | type fs => cases d <;> simp [checkedContent, SetsContent, Checked.map_eq_ok_iff, part_eq_ok_iff]
  | enum vs => cases d <;> simp [checkedContent, SetsContent, Checked.map_eq_ok_iff, part_eq_ok_iff]
  | request q =>
    cases d with
    | request p =>
      simp only [checkedContent, SetsContent, Checked.map_eq_ok_iff, Checked.ap_eq_ok_iff,
        part_eq_ok_iff, Content.request.injEq]
      constructor
      · rintro ⟨_, ⟨_, headers, ⟨_, query, ⟨_, body, ⟨_, params, ⟨_, path, ⟨method, h₁, rfl⟩, h₂,
          rfl⟩, h₃, rfl⟩, h₄, rfl⟩, h₅, rfl⟩, h₆, rfl⟩, rfl⟩
        exact ⟨h₁, h₂, h₃, h₄, h₅, h₆⟩
      · rintro ⟨h₁, h₂, h₃, h₄, h₅, h₆⟩
        exact ⟨_, ⟨_, _, ⟨_, _, ⟨_, _, ⟨_, _, ⟨_, _, ⟨_, h₁, rfl⟩, h₂, rfl⟩, h₃, rfl⟩, h₄, rfl⟩,
          h₅, rfl⟩, h₆, rfl⟩, rfl⟩
    | _ => simp [checkedContent, SetsContent, Checked.map_eq_ok_iff]

theorem checked_eq_ok_iff : checked members r = .ok s ↔ Patched members r s := by
  simp only [checked, Checked.ap_eq_ok_iff, Checked.map_eq_ok_iff, part_eq_ok_iff,
    checkedContent_eq_ok_iff]
  constructor
  · rintro ⟨_, content, ⟨_, description, ⟨_, name, ⟨_, id, ⟨_, parent, ⟨product, h₁, rfl⟩, h₂, rfl⟩,
      h₃, rfl⟩, h₄, rfl⟩, h₅, rfl⟩, h₆, rfl⟩
    exact ⟨h₁, h₂, h₃, h₄, h₅, h₆⟩
  · rintro ⟨h₁, h₂, h₃, h₄, h₅, h₆⟩
    exact ⟨_, _, ⟨_, _, ⟨_, _, ⟨_, _, ⟨_, _, ⟨_, h₁, rfl⟩, h₂, rfl⟩, h₃, rfl⟩, h₄, rfl⟩, h₅, rfl⟩,
      h₆, rfl⟩

/-- The members that references with a content have, each with whether a value is right for it. -/
def checks (c : Content) : List (String × (β → Bool)) :=
  [("product", fun v => (text v).isOk), ("parent", fun v => (nullable text v).isOk),
    ("id", fun v => (text v).isOk), ("name", fun v => (text v).isOk),
    ("description", fun v => (text v).isOk)] ++
  match c with
  | .type _ => [("fields", fun v => (fields v).isOk)]
  | .enum _ => [("values", fun v => (list enumValue v).isOk)]
  | .request _ =>
    [("method", fun v => (text v).isOk), ("path", fun v => (text v).isOk),
      ("params", fun v => (fields v).isOk), ("body", fun v => (fields v).isOk),
      ("query", fun v => (fields v).isOk), ("headers", fun v => (fields v).isOk)]

/-- A patch is taken if whatever it sets is right by itself. -/
theorem isOk_checked : (checked members r).isOk = true ↔
    ∀ e ∈ checks r.content, ∀ v, value? members e.1 = some v → e.2 v = true := by
  obtain ⟨product, parent, id, name, description, content⟩ := r
  cases content <;>
    simp [checked, checkedContent, checks, isOk_part, and_assoc]

theorem blames_of_mem_issues_checked : ∀ i ∈ (checked members r).issues, Blames members i := by
  have hpart {α : Type} {key : String} {check : β → Checked α} {own : α} :
      ∀ i ∈ (part members key check own).issues, Blames members i :=
    fun i => blames_of_mem_issues_part
  have hcontent : ∀ i ∈ (checkedContent members r.content).issues, Blames members i := by
    cases r.content with
    | type fs => simpa only [checkedContent, Checked.issues_map] using hpart
    | enum vs => simpa only [checkedContent, Checked.issues_map] using hpart
    | request q =>
      simp only [checkedContent, Checked.issues_ap, Checked.issues_map, List.forall_mem_append]
      exact ⟨⟨⟨⟨⟨hpart, hpart⟩, hpart⟩, hpart⟩, hpart⟩, hpart⟩
  simp only [checked, Checked.issues_ap, Checked.issues_map, List.forall_mem_append]
  exact ⟨⟨⟨⟨⟨hpart, hpart⟩, hpart⟩, hpart⟩, hpart⟩, hcontent⟩

/-! ### Unknown members -/

/-- Patches that set the known members alike do the same. -/
theorem ofMembers_congr {others : List (String × β)} (hnesting : r.content.nesting ≤ maxNesting)
    (hkind : KeepsKind members r)
    (h : ∀ key ∈ r.keys, value? others key = value? members key) :
    ofMembers others r = ofMembers members r := by
  have hkind' : KeepsKind others r := by
    intro v hv
    rw [h "kind" (by simp [Reference.keys])] at hv
    exact hkind v hv
  rw [ofMembers_eq_checked hkind hnesting, ofMembers_eq_checked hkind' hnesting]
  congr 1
  obtain ⟨product, parent, id, name, description, content⟩ := r
  cases content <;>
    simp only [Reference.keys, Content.keys, List.cons_append, List.nil_append,
      List.forall_mem_cons] at h <;>
    simp only [checked, checkedContent, part, h]

/-! ### The same patch again -/

theorem setsContent_self {kind : Kind} {c : Content}
    (h : content (merged members r) kind = .ok c) : SetsContent members c c := by
  have hfields {k : String} {fs : List TypeField}
      (h : optional [k] [] fields (merged members r) = .ok fs) : Sets members k fields fs fs :=
    sets_self_of_optional (fields_hom View.hom_inr) h
  have htext {k t : String} (h : required [k] text (merged members r) = .ok t) :
      Sets members k text t t := sets_self_of_required (text_hom View.hom_inr) h
  cases kind with
  | type =>
    obtain ⟨fs, hfs, rfl⟩ := Checked.map_eq_ok_iff.1 h
    exact hfields hfs
  | enum =>
    obtain ⟨vs, hvs, rfl⟩ := Checked.map_eq_ok_iff.1 h
    exact sets_self_of_optional (list_hom View.hom_inr (enumValue_hom View.hom_inr)) hvs
  | request =>
    obtain ⟨q, hq, rfl⟩ := Checked.map_eq_ok_iff.1 h
    obtain ⟨hmethod, hpath, hparams, hbody, hquery, hheaders⟩ := of_request_eq_ok hq
    exact ⟨htext hmethod, htext hpath, hfields hparams, hfields hbody, hfields hquery,
      hfields hheaders⟩

/-- A kind is named by a text, and by one only. -/
theorem of_kindOf_eq_ok {γ : Type} [View γ] {v : γ} {name : String} {c : Content}
    (h : kindOf v = .ok (name, c.decodedBy)) : shape v = .text c.kind := by
  have hname {t : String} (ht : kind? t = some c.decodedBy) : t = c.kind := by
    rw [kind?.eq_def] at ht
    split at ht <;> cases c <;> first | rfl | exact absurd ht (by simp [Content.decodedBy])
  rw [kindOf] at h
  split at h
  · rename_i t ht
    split at h
    · rename_i kind hkind
      rw [Checked.ok.injEq, Prod.mk.injEq] at h
      rw [h.2] at hkind
      rw [ht, hname hkind]
    · exact absurd h (by simp [Checked.refuse])
  · exact absurd h (by simp [Checked.refuse])

/-- Once taken, a patch has nothing to change, whatever it made of the kind. -/
theorem ofMembers_self (h : ofMembers members r = .ok s) : ofMembers members s = .ok s := by
  by_cases hempty : members = []
  · subst hempty
    rfl
  rw [ofMembers_eq_referenceFrom hempty (nesting_le_of_ofMembers hempty h)] at h
  obtain ⟨v, name, kind, hlookup, hkindOf, hproduct, hparent, hid, hname, hdescription, hcontent⟩ :=
    of_referenceFrom_eq_ok h
  obtain rfl := decodedBy_of_content_eq_ok hcontent
  -- the patch may have set the kind of `r`, but it keeps the one that it set
  have hkind : KeepsKind members s := by
    intro w hw
    rw [lookup_merged, hw] at hlookup
    obtain rfl := Option.some.inj hlookup
    have hshape := of_kindOf_eq_ok hkindOf
    rw [View.hom_inr.shape_eq] at hshape
    exact Shape.eq_text_of_map hshape
  have hpatched : Patched members s s :=
    ⟨sets_self_of_required (text_hom View.hom_inr) hproduct,
      sets_self_of_optional (nullable_hom View.hom_inr (text_hom View.hom_inr)) hparent,
      sets_self_of_required (text_hom View.hom_inr) hid,
      sets_self_of_required (text_hom View.hom_inr) hname,
      sets_self_of_optional (text_hom View.hom_inr) hdescription, setsContent_self hcontent⟩
  rw [ofMembers_eq_checked hkind (nesting_le_of_content hcontent), checked_eq_ok_iff.2 hpatched,
    Checked.under_ok]

end

end Patch

end ClientScribe
