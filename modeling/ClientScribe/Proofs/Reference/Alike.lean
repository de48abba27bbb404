import ClientScribe.Docs.Node
import ClientScribe.Proofs.Reference.Interchange
import ClientScribe.Proofs.Schema.Rewriting
import Mathlib.Logic.Relation

/-!
Documents that load alike.  Pages and references are checked by records inside each other; since no
check sees a change of one member, whatever is rewritten by such changes gives the same pages and
the same references, or is refused as before.
-/

namespace ClientScribe

open Checked (Agree)

namespace Decode

/-! ### Pages -/

theorem overlooks_param : Overlooks id .param param := by
  intro v w h
  cases h with
  | members h =>
    rw [param, param, record_obj displays_self, record_obj displays_self]
    refine ((((Agree.map ?_ _).ap ?_).ap ?_).ap ?_).ap ?_
    · exact required_of_free h (by decide)
    · exact optional_of_rule ⟨["type"], true, none⟩ h (by decide)
        (fun _ => nullAs_null displays_self _) fun _ heq => absurd heq (by simp)
    · exact optional_of_rule ⟨["in", "location"], false, none⟩ h (by decide)
        (fun hnull => absurd hnull (by simp)) fun _ heq => absurd heq (by simp)
    · exact optional_of_rule ⟨["required"], true, none⟩ h (by decide)
        (fun _ => nullAs_null displays_self _) fun _ heq => absurd heq (by simp)
    · exact optional_of_rule ⟨["desc"], true, none⟩ h (by decide)
        (fun _ => nullAs_null displays_self _) fun _ heq => absurd heq (by simp)

theorem overlooks_endpoint : Overlooks id .endpoint endpoint := by
  have hparams := overlooks_nullAs displays_self [] (overlooks_list displays_self overlooks_param)
  intro v w h
  cases h with
  | members h =>
    rw [endpoint, endpoint, record_obj displays_self, record_obj displays_self]
    refine ((Agree.map ?_ _).ap ?_).ap ?_
    · exact required_of_free h (by decide)
    · exact required_of_free h (by decide)
    · exact optional_of_rule ⟨["params"], true, some (.list .param)⟩ h (by decide)
        (fun _ => nullAs_null displays_self _) fun _ heq => Option.some.inj heq ▸ hparams

/-- However much room there is for pages inside each other. -/
theorem overlooks_page (room : Nat) : Overlooks id .page (page room) := by
  induction room with
  | zero => exact fun _ _ _ => .refl _
  | succ room ih =>
    have hendpoint := overlooks_nullable displays_self overlooks_endpoint
    have hchildren := overlooks_nullAs displays_self [] (overlooks_list displays_self ih)
    intro v w h
    cases h with
    | members h =>
      rw [page, page, record_obj displays_self, record_obj displays_self]
      refine ((((((Agree.map ?_ _).ap ?_).ap ?_).ap ?_).ap ?_).ap ?_).ap ?_
      · exact required_of_free h (by decide)
      · exact required_of_free h (by decide)
      · exact required_of_free h (by decide)
      · exact optional_of_rule ⟨["body"], true, none⟩ h (by decide)
          (fun _ => nullAs_null displays_self _) fun _ heq => absurd heq (by simp)
      · exact optional_of_rule ⟨["excerpt"], true, none⟩ h (by decide)
          (fun _ => nullAs_null displays_self _) fun _ heq => absurd heq (by simp)
      · exact optional_of_rule ⟨["api"], true, some .endpoint⟩ h (by decide)
          (fun _ => nullable_null displays_self) fun _ heq => Option.some.inj heq ▸ hendpoint
      · exact optional_of_rule ⟨["children"], true, some (.list .page)⟩ h (by decide)
          (fun _ => nullAs_null displays_self _) fun _ heq => Option.some.inj heq ▸ hchildren

/-! ### References -/

section

variable {β : Type} [View β] {view : Json → β} (hview : Displays view)

include hview

/-- However much room there is for types and fields inside each other. -/
theorem overlooks_typeNode_typeField (room : Nat) (around : Around) :
    Overlooks view .type (typeNode room around)
    ∧ Overlooks view .field (typeField room around) := by
  induction room generalizing around with
  | zero => exact ⟨fun _ _ _ => .refl _, fun _ _ _ => .refl _⟩
  | succ room ih =>
    obtain ⟨htype, hfield⟩ := ih around
    constructor
    · have hfields := overlooks_nullable hview (overlooks_list hview hfield)
      have htypes := overlooks_nullable hview (overlooks_list hview htype)
      intro v w h
      cases h with
      | members h =>
        rw [typeNode, typeNode, nested_of_mark?_eq_none (hview.mark?_eq _),
          nested_of_mark?_eq_none (hview.mark?_eq _), record_obj hview, record_obj hview]
        refine (((((Agree.map ?_ _).ap ?_).ap ?_).ap ?_).ap ?_).ap ?_
        · exact required_of_free h (by decide)
        · exact optional_of_rule ⟨["startsWith", "starts_with"], true, none⟩ h (by decide)
            (fun _ => nullable_null hview) fun _ heq => absurd heq (by simp)
        · exact optional_of_rule ⟨["possibleValues", "possible_values"], true, none⟩ h (by decide)
            (fun _ => nullable_null hview) fun _ heq => absurd heq (by simp)
        · exact optional_of_rule ⟨["fields"], true, some (.list .field)⟩ h (by decide)
            (fun _ => nullable_null hview) fun _ heq => Option.some.inj heq ▸ hfields
        · exact optional_of_rule ⟨["id"], true, none⟩ h (by decide)
            (fun _ => nullable_null hview) fun _ heq => absurd heq (by simp)
        · exact optional_of_rule ⟨["arrayTypes", "array_types"], true, some (.list .type)⟩ h
            (by decide) (fun _ => nullable_null hview) fun _ heq => Option.some.inj heq ▸ htypes
    · have htypes := overlooks_list hview htype
      intro v w h
      cases h with
      | members h =>
        rw [typeField, typeField, nested_of_mark?_eq_none (hview.mark?_eq _),
          nested_of_mark?_eq_none (hview.mark?_eq _), record_obj hview, record_obj hview]
        refine (((Agree.map ?_ _).ap ?_).ap ?_).ap ?_
        · exact required_of_free h (by decide)
        · exact required_of_rule ⟨["type", "types"], false, some (.list .type)⟩ h (by decide) rfl
            fun _ heq => Option.some.inj heq ▸ htypes
        · exact optional_of_free h (by decide)
        · exact optional_of_free h (by decide)

theorem overlooks_fields : Overlooks view (.list .field) fields :=
  overlooks_list hview (overlooks_typeNode_typeField hview maxNesting []).2

/-- The fields of a reference, in one of their places. -/
theorem optional_fields {ms ms' : Json.Members} (h : Edits .reference ms ms') {place : String}
    (hplace : ⟨[place], false, some (.list .field)⟩ ∈ Form.rules .reference) :
    Agree (optional [place] [] fields (mapValues view ms))
      (optional [place] [] fields (mapValues view ms')) :=
  optional_of_rule ⟨[place], false, some (.list .field)⟩ h hplace
    (fun hnull => absurd hnull (by simp)) fun _ heq => Option.some.inj heq ▸ overlooks_fields hview

theorem content_of_edits {ms ms' : Json.Members} (h : Edits .reference ms ms') (kind : Kind) :
    Agree (content (mapValues view ms) kind) (content (mapValues view ms') kind) := by
  cases kind with
  | type => exact (optional_fields hview h (by decide)).map _
  | enum => exact (optional_of_free h (by decide)).map _
  | request =>
    refine Agree.map ?_ _
    rw [request, request]
    refine (((((Agree.map ?_ _).ap ?_).ap ?_).ap ?_).ap ?_).ap ?_
    · exact required_of_free h (by decide)
    · exact required_of_free h (by decide)
    · exact optional_fields hview h (by decide)
    · exact optional_fields hview h (by decide)
    · exact optional_fields hview h (by decide)
    · exact optional_fields hview h (by decide)

theorem referenceOf_of_edits {ms ms' : Json.Members} (h : Edits .reference ms ms') (kind : Kind) :
    Agree (referenceOf kind (mapValues view ms)) (referenceOf kind (mapValues view ms')) := by
  rw [referenceOf, referenceOf]
  refine (((((Agree.map ?_ _).ap ?_).ap ?_).ap ?_).ap ?_).ap ?_
  · exact required_of_free h (by decide)
  · exact optional_of_rule ⟨["parent"], true, none⟩ h (by decide)
      (fun _ => nullable_null hview) fun _ heq => absurd heq (by simp)
  · exact required_of_free h (by decide)
  · exact required_of_free h (by decide)
  · exact optional_of_free h (by decide)
  · exact content_of_edits hview h kind

theorem overlooks_reference : Overlooks view .reference reference := by
  intro v w h
  cases h with
  | @members _ ms ms' h =>
    have hkind : (mapValues view ms).lookup "kind" = (mapValues view ms').lookup "kind" := by
      rw [lookup_mapValues, lookup_mapValues, h.lookup_eq (by decide)]
    rw [reference, reference, hview.obj, hview.obj]
    simp only [referenceFrom, hkind]
    cases (mapValues view ms').lookup "kind" with
    | none => exact .refl _
    | some v =>
      cases hkindOf : kindOf v with
      | ok found => simpa only [hkindOf] using (referenceOf_of_edits hview h found.2).under _ _
      | rejected issues => simpa only [hkindOf] using .refl _

theorem overlooks_references : Overlooks view (.list .reference) references :=
  overlooks_list hview (overlooks_reference hview)

end

/-- A check that sees no change sees none after any number of them. -/
theorem Overlooks.run {α β : Type} {view : Json → β} {form : Form} {check : β → Checked α}
    (h : Overlooks view form check) {v w : Json} (hvw : Relation.ReflTransGen (Rewrites form) v w) :
    Agree (check (view v)) (check (view w)) := by
  induction hvw with
  | refl => exact .refl _
  | tail _ hstep ih => exact fun a => (ih a).trans (h _ _ hstep a)

end Decode

open Relation (ReflTransGen)

/-- However many members are dropped, renamed or rewritten inside, a page is taken as the same page
and a list of references is loaded as the same list, or both are refused. -/
theorem rewritten_alike :
    (∀ v w, ReflTransGen (Rewrites .page) v w →
      ∀ page, Decode.docNode v = .ok page ↔ Decode.docNode w = .ok page)
    ∧ ∀ v w, ReflTransGen (Rewrites (.list .reference)) v w →
      (∀ rs, Decode.references (Json.Written.mk v) = .ok rs ↔
        Decode.references (Json.Written.mk w) = .ok rs)
      ∧ ∀ text text', Json.readStrict text = .ok v → Json.readStrict text' = .ok w →
        ∀ rs, Reference.load text = .ok rs ↔ Reference.load text' = .ok rs := by
  refine ⟨fun v w h => (Decode.overlooks_page _).run h, fun v w h => ?_⟩
  have hrun := (Decode.overlooks_references Decode.displays_written).run h
  refine ⟨hrun, fun text text' htext htext' rs => ?_⟩
  rw [Reference.load, Reference.load, htext, htext']
  exact hrun rs

/-- A page of an endpoint with one parameter, with and without a null body. -/
def parameterPage (body parameter : Json.Members) : Json :=
  .obj (("title", .str "Get A") :: body ++ [("slug", .str "g"), ("type", .str "endpoint"),
    ("api", .obj [("method", .str "get"), ("url", .str "/as"),
      ("params", .arr [.obj parameter])])])

theorem parameterPage_rewrites_body (ps : Json.Members) :
    Rewrites .page (parameterPage [("body", .null)] ps) (parameterPage [] ps) :=
  .members (@Edits.drop .page ⟨["body"], true, none⟩ "body" [("title", .str "Get A")] _
    (by decide) rfl (by decide) (by simp))

theorem parameterPage_rewrites {ps qs : Json.Members} (h : Edits .param ps qs) :
    Rewrites .page (parameterPage [] ps) (parameterPage [] qs) := by
  have hparams : Rewrites (.list .param) (.arr [.obj ps]) (.arr [.obj qs]) :=
    @Rewrites.item _ _ _ [] [] (.members h)
  have hendpoint := @Edits.part .endpoint _ ⟨["params"], true, some (.list .param)⟩ "params" _ _
    [("method", .str "get"), ("url", .str "/as")] [] (by decide) (by decide) rfl hparams
  exact .members (@Edits.part .page _ ⟨["api"], true, some .endpoint⟩ "api" _ _
    [("title", .str "Get A"), ("slug", .str "g"), ("type", .str "endpoint")] [] (by decide)
    (by decide) rfl (.members hendpoint))

/-- A list of one type with one field, whose types stand under the given key. -/
def oneType (parent : Json.Members) (key : String) : Json :=
  .arr [.obj (("kind", .str "type") :: parent ++ [("product", .str "p"), ("id", .str "a"),
    ("name", .str "A"), ("fields", .arr [.obj [("name", .str "x"), (key, .arr [])]])])]

theorem oneType_rewrites_parent : Rewrites (.list .reference)
    (oneType [("parent", .null)] "type") (oneType [] "type") :=
  @Rewrites.item _ _ _ [] [] (.members (@Edits.drop .reference ⟨["parent"], true, none⟩ "parent"
    [("kind", .str "type")] _ (by decide) rfl (by decide) (by simp)))

theorem oneType_rewrites_types :
    Rewrites (.list .reference) (oneType [] "type") (oneType [] "types") := by
  have hfield : Edits .field [("name", .str "x"), ("type", .arr [])]
      [("name", .str "x"), ("types", .arr [])] :=
    @Edits.rename .field ⟨["type", "types"], false, some (.list .type)⟩ _ _ _
      [("name", .str "x")] [] (by decide) (by decide) (by decide) (by simp)
  have hfields : Rewrites (.list .field) _ _ := @Rewrites.item _ _ _ [] [] (.members hfield)
  exact @Rewrites.item _ _ _ [] [] (.members (@Edits.part .reference _
    ⟨["fields"], false, some (.list .field)⟩ "fields" _ _ [("kind", .str "type"),
      ("product", .str "p"), ("id", .str "a"), ("name", .str "A")] [] (by decide) (by decide) rfl
    hfields))

/-- The texts of the first list and of the last. -/
def oneTypeTexts : String × String :=
  ("[\x7b\"kind\":\"type\",\"parent\":null,\"product\":\"p\",\"id\":\"a\",\"name\":\"A\"," ++
    "\"fields\":[\x7b\"name\":\"x\",\"type\":[]\x7d]\x7d]",
   "[\x7b\"kind\":\"type\",\"product\":\"p\",\"id\":\"a\",\"name\":\"A\",\"fields\":" ++
    "[\x7b\"name\":\"x\",\"types\":[]\x7d]\x7d]")

theorem readStrict_oneTypeTexts :
    Json.readStrict oneTypeTexts.1 = .ok (oneType [("parent", .null)] "type")
    ∧ Json.readStrict oneTypeTexts.2 = .ok (oneType [] "types") :=
  ⟨rfl, rfl⟩

/-- Three changes of a page, and two changes of a list of references in its text. -/
theorem parameter_and_type_alike :
    (∀ page,
      Decode.docNode (parameterPage [("body", .null)]
        [("name", .str "id"), ("in", .str "query"), ("desc", .null)]) = .ok page ↔
      Decode.docNode (parameterPage [] [("name", .str "id"), ("location", .str "query")])
        = .ok page)
    ∧ ∀ rs, Reference.load oneTypeTexts.1 = .ok rs ↔ Reference.load oneTypeTexts.2 = .ok rs := by
  have hplace := parameterPage_rewrites (@Edits.rename .param ⟨["in", "location"], false, none⟩
    "in" "location" (.str "query") [("name", .str "id")] [("desc", .null)] (by decide) (by decide)
    (by decide) (by simp))
  have hdesc := parameterPage_rewrites (@Edits.drop .param ⟨["desc"], true, none⟩ "desc"
    [("name", .str "id"), ("location", .str "query")] [] (by decide) rfl (by decide) (by simp))
  have hpage : ReflTransGen (Rewrites .page) _ _ :=
    ((ReflTransGen.single (parameterPage_rewrites_body _)).tail hplace).tail hdesc
  have htypes : ReflTransGen (Rewrites (.list .reference)) _ _ :=
    (ReflTransGen.single oneType_rewrites_parent).tail oneType_rewrites_types
  obtain ⟨htext, htext'⟩ := readStrict_oneTypeTexts
  exact ⟨rewritten_alike.1 _ _ hpage, (rewritten_alike.2 _ _ htypes).2 _ _ htext htext'⟩

end ClientScribe
