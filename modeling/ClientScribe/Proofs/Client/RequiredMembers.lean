import ClientScribe.Proofs.Client.RequestFunction
import ClientScribe.Proofs.Reference.Tree
import Mathlib.Data.List.Nodup

/-!
Which members of a request may be left out.  A path parameter is required where it is documented,
but the interface has one member for each name: the member may be left out as soon as a parameter of
the same name in another place may be.
-/

namespace ClientScribe.Client

/-- An interface has one member for the fields of a name, which is required if they all are. -/
theorem exists_member_of_field {references : List Reference} {r : Reference}
    {fields : List TypeField} {f : TypeField} (hf : f ∈ fields) :
    ∃ m ∈ (interfaceFile references r fields).members, m.name = f.name
      ∧ (∀ m' ∈ (interfaceFile references r fields).members, m'.name = f.name → m' = m)
      ∧ (m.required = true ↔ TypeField.Requires fields f.name) := by
  have hname : f.name ∈ (TypeField.merge fields).map TypeField.name :=
    TypeField.mem_names_merge.2 (List.mem_map_of_mem hf)
  obtain ⟨g, hg, hsame⟩ := List.mem_map.1 hname
  have hone : ∀ h ∈ TypeField.merge fields, h.name = f.name → h = g := by
    intro h hh hname
    exact List.inj_on_of_nodup_map (TypeField.nodup_names_merge fields) hh hg
      (hname.trans hsame.symm)
  refine ⟨memberFor references g, List.mem_map_of_mem hg, hsame, ?_, ?_⟩
  · intro m' hm' hname
    obtain ⟨h, hh, rfl⟩ := List.mem_map.1 hm'
    rw [hone h hh hname]
  · rw [← TypeField.requires_merge]
    constructor
    · intro hrequired h hh hname
      rw [hone h hh hname]
      exact hrequired
    · intro hall
      exact hall g hg hsame

/-! ### Parameters by place -/

theorem requires_map {params : List Param} {field : Param → TypeField} {name : String}
    (hfield : ∀ p, (field p).name = p.name) :
    TypeField.Requires (params.map field) name ↔
      ∀ p ∈ params, p.name = name → (field p).required = true := by
  rw [TypeField.Requires, List.forall_mem_map]
  simp only [hfield]

/-- The fields of a request require a name if every parameter of that name that the request keeps is
required or goes to the path. -/
theorem requires_fields_iff {e : Endpoint} {name : String} :
    TypeField.Requires e.request.fields name ↔
      ∀ p ∈ e.params, p.name = name → Param.IsKept p → p.place ≠ "path" → p.required = true := by
  have hfield (p : Param) : p.field.name = p.name := rfl
  have hforced (p : Param) : { p.field with required := true }.name = p.name := rfl
  simp only [Request.fields, Endpoint.request, TypeField.requires_append, requires_map hfield,
    requires_map hforced]
  simp only [Endpoint.paramsIn, List.mem_filter, beq_iff_eq, Param.field, and_imp]
  constructor
  · rintro ⟨⟨⟨-, hbody⟩, hquery⟩, hheaders⟩ p hp hname hkept hpath
    rcases hkept with hin | hin | hin | ⟨hin, hsupplied⟩
    · exact absurd hin hpath
    · exact hbody p hp hin hname
    · exact hquery p hp hin hname
    · exact hheaders p hp hin hsupplied hname
  · intro hall
    refine ⟨⟨⟨fun _ _ _ _ => trivial, ?_⟩, ?_⟩, ?_⟩
    · intro p hp hin hname
      exact hall p hp hname (.inr (.inl hin)) (by simp [hin])
    · intro p hp hin hname
      exact hall p hp hname (.inr (.inr (.inl hin))) (by simp [hin])
    · intro p hp hin hsupplied hname
      exact hall p hp hname (.inr (.inr (.inr ⟨hin, hsupplied⟩))) (by simp [hin])

/-- Every path parameter of an extracted request is one member of its interface.  The member is
required exactly if every other parameter of that name that the request keeps is required or goes to
the path too. -/
theorem pathParameter_required_iff [Interpreter] (titles : List String) (product owner : String)
    (v : Visit) (e : Endpoint) (htopic : v.topic = .endpoint) (howner : v.owner? = some owner)
    (he : v.page.endpoint = some e) :
    ∃ r, (v.extract ⟨[], titles⟩ product).result = .ok (some r) ∧ r.content = .request e.request
      ∧ ∀ references, declaration references r = (interfaceFile references r e.request.fields).text
        ∧ ∀ p ∈ e.params, p.place = "path" →
          ∃ m ∈ (interfaceFile references r e.request.fields).members, m.name = p.name
            ∧ (∀ m' ∈ (interfaceFile references r e.request.fields).members,
              m'.name = p.name → m' = m)
            ∧ (m.required = true ↔ ∀ q ∈ e.params, q.name = p.name → Param.IsKept q →
              q.place ≠ "path" → q.required = true) := by
  refine ⟨_, extract_endpoint titles product htopic howner he, rfl, ?_⟩
  intro references
  refine ⟨declaration_eq_text rfl, ?_⟩
  intro p hp hin
  obtain ⟨f, hf, hname⟩ := exists_field_iff.2 ⟨p, hp, .inl hin, rfl⟩
  rw [← hname, ← requires_fields_iff]
  exact exists_member_of_field hf

/-! ### A name in the path and in the query -/

/-- An endpoint with a path parameter and a parameter of the query that share a name. -/
def sharing (required : Bool) : Endpoint :=
  ⟨"get", "/as/:id",
    [⟨"id", "string", "path", false, ""⟩, ⟨"id", "string", "query", required, ""⟩]⟩

def sharingVisit (required : Bool) : Visit :=
  ⟨⟨"Get A", "g", "endpoint", "", "", some (sharing required), []⟩, some "a"⟩

theorem topic_sharingVisit (required : Bool) : (sharingVisit required).topic = .endpoint := by
  cases required <;> decide

theorem owner?_sharingVisit (required : Bool) : (sharingVisit required).owner? = some "a" := by
  cases required <;> decide

def sharingField (required : Bool) : TypeField := ⟨"id", [.plain "string"], required, ""⟩

theorem fields_sharing (required : Bool) :
    (sharing required).request.fields = [sharingField true, sharingField required] := by
  have hinfer : TypeNode.infer "string" "" = [.plain "string"] := by rfl
  simp [Request.fields, Endpoint.request, Endpoint.paramsIn, sharing, Param.field, hinfer,
    sharingField]

theorem merge_sharingFields (required : Bool) :
    TypeField.merge [sharingField true, sharingField required] = [sharingField required] := by
  simp [TypeField.merge, TypeField.insert, TypeField.join, sharingField, joinDescriptions,
    TypeNode.union]

/-- One member stands for both parameters. -/
theorem members_sharing (required : Bool) (references : List Reference) (r : Reference) :
    (interfaceFile references r (sharing required).request.fields).members =
      [⟨"id", required, "", [.word "string"]⟩] := by
  rw [fields_sharing, interfaceFile, merge_sharingFields]
  rfl

/-- If the query may do without the name, the path may too. -/
theorem sharing_optional : ∃ r,
    ((sharingVisit false).extract ⟨[], []⟩ "p").result = .ok (some r)
    ∧ r.content = .request (sharing false).request ∧ ∀ references,
      ∃ m ∈ (interfaceFile references r (sharing false).request.fields).members,
        m.name = "id" ∧ m.required = false ∧ m.text = "  id?: string;\n" := by
  refine ⟨_, extract_endpoint [] "p" (topic_sharingVisit false) (owner?_sharingVisit false) rfl,
    rfl, ?_⟩
  intro references
  rw [members_sharing]
  exact ⟨_, List.mem_singleton_self _, rfl, rfl, by decide⟩

/-- If the query needs the name, the member is required. -/
theorem sharing_required : ∃ r,
    ((sharingVisit true).extract ⟨[], []⟩ "p").result = .ok (some r) ∧ ∀ references,
      ∃ m ∈ (interfaceFile references r (sharing true).request.fields).members,
        m.name = "id" ∧ m.required = true := by
  obtain ⟨r, hextract, -, hreferences⟩ := pathParameter_required_iff [] "p" "a" (sharingVisit true)
    (sharing true) (topic_sharingVisit true) (owner?_sharingVisit true) rfl
  refine ⟨r, hextract, ?_⟩
  intro references
  obtain ⟨m, hm, hname, -, hrequired⟩ :=
    (hreferences references).2 ⟨"id", "string", "path", false, ""⟩ (by simp [sharing]) rfl
  refine ⟨m, hm, hname, hrequired.2 ?_⟩
  intro q hq _ _ hplace
  simp only [sharing, List.mem_cons, List.not_mem_nil, or_false] at hq
  rcases hq with rfl | rfl
  · exact absurd rfl hplace
  · rfl

end ClientScribe.Client
