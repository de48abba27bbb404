import ClientScribe.Client.Api
import ClientScribe.Docs.Extraction
import ClientScribe.Proofs.Client.InterfaceFile

/-!
What the function of a request reads and what the interface of the request declares.  Query and body
come from the documented parameters on both sides; the arguments come from the placeholders of the
url, which nothing relates to the parameters.
-/

namespace ClientScribe.Client

/-- The function of a request, by what it reads from it. -/
structure RequestFunction where
  request : String
  method : String
  template : String
  query : List String
  arguments : List String
  body : List String

namespace RequestFunction

def memberText (name : String) : String := property name ++ ": " ++ access name

def queryText : List String → String
  | [] => ""
  | [name] => "  const queryParams = client.queryParams(\x7b " ++ memberText name ++ " \x7d);\n"
  | names =>
    "  const queryParams = client.queryParams(\x7b"
      ++ String.join (names.map fun name => "\n    " ++ memberText name ++ ",") ++ "\n  \x7d);\n"

def bodyText : List String → String
  | [] => ""
  | names =>
    ", \x7b\n" ++ String.join (names.map fun name => "    " ++ memberText name ++ ",\n") ++ "  \x7d"

def text (client : HttpClient) (owner error : String) (f : RequestFunction) : String :=
  "export async function " ++ functionName f.request ++ "(client: " ++ client.name ++ ", request: "
    ++ f.request ++ "): Promise<" ++ owner ++ "> \x7b\n"
    ++ queryText f.query
    ++ ("  const response = await client." ++ f.method ++ "('" ++ f.template ++ "'"
      ++ (if f.query.isEmpty then "" else " + queryParams")
      ++ String.join (f.arguments.map fun name => ", " ++ access name)
      ++ bodyText f.body ++ ");\n")
    ++ "  return await response.data<" ++ owner ++ ", " ++ error ++ ">();\n\x7d\n"

/-- The members of the request that the function reads. -/
def reads (f : RequestFunction) : List String := f.arguments ++ f.query ++ f.body

end RequestFunction

def requestFunction (name : String) (r : Request) : RequestFunction where
  request := name
  method := String.ofList (Text.lower r.method.toList)
  template := UrlPath.template r.path
  query := r.query.map TypeField.name
  arguments := UrlPath.placeholders r.path
  body := r.body.map TypeField.name

theorem passedOn_eq (f : TypeField) : passedOn f = RequestFunction.memberText f.name := rfl

theorem queryText_eq (fs : List TypeField) :
    queryText fs = RequestFunction.queryText (fs.map TypeField.name) := by
  -- the equations of the two functions are not used: making them evaluates their texts
  delta queryText RequestFunction.queryText
  match fs with
  | [] | [f] => rfl
  | f :: g :: fs => simp only [passedOn_eq, List.map_cons, List.map_map, Function.comp_def]

theorem bodyText_eq (fs : List TypeField) :
    bodyText fs = RequestFunction.bodyText (fs.map TypeField.name) := by
  match fs with
  | [] => rw [bodyText, List.map_nil, RequestFunction.bodyText]
  | f :: fs =>
    simp only [bodyText, List.map_cons, RequestFunction.bodyText, passedOn_eq, List.map_map,
      Function.comp_def]

/-- The function of a request is written as its parts say. -/
theorem functionText_eq (client : HttpClient) (owner error : String) (r : Reference)
    (request : Request) :
    functionText client owner error (r, request) =
      (requestFunction r.name request).text client owner error := by
  unfold functionText callText RequestFunction.text requestFunction
  simp only [queryText_eq, bodyText_eq, List.isEmpty_map]

/-- The file declares a member of that name. -/
def InterfaceFile.HasMember (file : InterfaceFile) (name : String) : Prop :=
  ∃ m ∈ file.members, m.name = name

theorem hasMember_interfaceFile_iff {references : List Reference} {r : Reference}
    {fields : List TypeField} {name : String} :
    (interfaceFile references r fields).HasMember name ↔ ∃ f ∈ fields, f.name = name := by
  have hmembers : (interfaceFile references r fields).HasMember name ↔
      name ∈ (TypeField.merge fields).map TypeField.name := by
    constructor
    · rintro ⟨m, hm, rfl⟩
      obtain ⟨f, hf, rfl⟩ := List.mem_map.1 hm
      exact List.mem_map.2 ⟨f, hf, rfl⟩
    · intro hname
      obtain ⟨f, hf, rfl⟩ := List.mem_map.1 hname
      exact ⟨memberFor references f, List.mem_map_of_mem hf, rfl⟩
  rw [hmembers, TypeField.mem_names_merge, List.mem_map]

/-! ### Documented parameters -/

/-- A parameter that is a field of the request: it goes to a place that the request has, and a
header is supplied by callers. -/
def Param.IsKept (p : Param) : Prop :=
  p.place = "path" ∨ p.place = "body" ∨ p.place = "query" ∨ p.place = "header" ∧ p.isSupplied = true

instance (p : Param) : Decidable (Param.IsKept p) :=
  inferInstanceAs (Decidable (_ ∨ _ ∨ _ ∨ _ ∧ _))

/-- The fields of a request are named as the parameters that it keeps. -/
theorem exists_field_iff {e : Endpoint} {name : String} :
    (∃ f ∈ e.request.fields, f.name = name) ↔ ∃ p ∈ e.params, Param.IsKept p ∧ p.name = name := by
  have hplace (place : String) (p : Param) :
      p ∈ e.paramsIn place ↔ p ∈ e.params ∧ p.place = place := by
    simp [Endpoint.paramsIn]
  simp only [Request.fields, Endpoint.request, List.mem_append, List.mem_map, List.mem_filter,
    hplace]
  constructor
  · rintro ⟨f, ((⟨p, ⟨hp, hin⟩, rfl⟩ | ⟨p, ⟨hp, hin⟩, rfl⟩) | ⟨p, ⟨hp, hin⟩, rfl⟩)
      | ⟨p, ⟨⟨hp, hin⟩, hsupplied⟩, rfl⟩, rfl⟩
    · exact ⟨p, hp, .inl hin, rfl⟩
    · exact ⟨p, hp, .inr (.inl hin), rfl⟩
    · exact ⟨p, hp, .inr (.inr (.inl hin)), rfl⟩
    · exact ⟨p, hp, .inr (.inr (.inr ⟨hin, hsupplied⟩)), rfl⟩
  · rintro ⟨p, hp, hin | hin | hin | ⟨hin, hsupplied⟩, rfl⟩
    · exact ⟨_, .inl (.inl (.inl ⟨p, ⟨hp, hin⟩, rfl⟩)), rfl⟩
    · exact ⟨_, .inl (.inl (.inr ⟨p, ⟨hp, hin⟩, rfl⟩)), rfl⟩
    · exact ⟨_, .inl (.inr ⟨p, ⟨hp, hin⟩, rfl⟩), rfl⟩
    · exact ⟨_, .inr ⟨p, ⟨⟨hp, hin⟩, hsupplied⟩, rfl⟩, rfl⟩

/-- What an endpoint page under a type gives. -/
theorem extract_endpoint [Interpreter] (titles : List String) (product : String) {owner : String}
    {v : Visit} {e : Endpoint} (htopic : v.topic = .endpoint) (howner : v.owner? = some owner)
    (he : v.page.endpoint = some e) :
    (v.extract ⟨[], titles⟩ product).result =
      .ok (some (v.reference product (some owner) (Title.requestName v.page.title)
        (.request e.request))) := by
  rw [Visit.extract, htopic]
  simp only [howner, he]
  rfl

/-- The function of an extracted request reads its query and its body by members that the interface
declares.  Everything that it reads is declared exactly if every placeholder of the path is the name
of a parameter that the request keeps. -/
theorem requestFunction_reads_declared [Interpreter] (titles : List String) (product owner : String)
    (v : Visit) (e : Endpoint) (htopic : v.topic = .endpoint) (howner : v.owner? = some owner)
    (he : v.page.endpoint = some e) :
    ∃ r, (v.extract ⟨[], titles⟩ product).result = .ok (some r) ∧ r.content = .request e.request
      ∧ (∀ client type error, functionText client type error (r, e.request) =
        (requestFunction r.name e.request).text client type error)
      ∧ ∀ references,
        declaration references r = (interfaceFile references r e.request.fields).text
        ∧ (∀ name ∈ (requestFunction r.name e.request).query
            ++ (requestFunction r.name e.request).body,
          (interfaceFile references r e.request.fields).HasMember name)
        ∧ ((∀ name ∈ (requestFunction r.name e.request).reads,
            (interfaceFile references r e.request.fields).HasMember name) ↔
          ∀ name ∈ UrlPath.placeholders (UrlPath.ofUrl e.url),
            ∃ p ∈ e.params, Param.IsKept p ∧ p.name = name) := by
  refine ⟨_, extract_endpoint titles product htopic howner he, rfl,
    fun client type error => functionText_eq client type error _ e.request, ?_⟩
  intro references
  have hdeclared : ∀ name ∈ e.request.query.map TypeField.name ++ e.request.body.map TypeField.name,
      ∃ f ∈ e.request.fields, f.name = name := by
    intro name hname
    rcases List.mem_append.1 hname with hname | hname
    · obtain ⟨f, hf, rfl⟩ := List.mem_map.1 hname
      exact ⟨f, by simp [Request.fields, hf], rfl⟩
    · obtain ⟨f, hf, rfl⟩ := List.mem_map.1 hname
      exact ⟨f, by simp [Request.fields, hf], rfl⟩
  refine ⟨declaration_eq_text rfl, ?_, ?_, ?_⟩
  · intro name hname
    exact hasMember_interfaceFile_iff.2 (hdeclared name hname)
  · intro hreads name hname
    have hdeclared := hreads name (List.mem_append_left _ (List.mem_append_left _ hname))
    exact exists_field_iff.1 (hasMember_interfaceFile_iff.1 hdeclared)
  · intro hplaceholders name hname
    rw [RequestFunction.reads, List.append_assoc] at hname
    apply hasMember_interfaceFile_iff.2
    rcases List.mem_append.1 hname with hargument | hname
    · exact exists_field_iff.2 (hplaceholders name hargument)
    · exact hdeclared name hname

/-! ### A placeholder without a parameter -/

/-- An endpoint whose url has a placeholder that no parameter documents. -/
def undocumented : Endpoint := ⟨"get", "/as/:id", []⟩

def undocumentedVisit : Visit :=
  ⟨⟨"Get A", "g", "endpoint", "", "", some undocumented, []⟩, some "a"⟩

theorem placeholders_undocumented :
    UrlPath.placeholders (UrlPath.ofUrl undocumented.url) = ["id"] := by decide +kernel

/-- The function reads a member that the interface does not declare. -/
theorem undocumented_read_undeclared : ∃ r,
    (undocumentedVisit.extract ⟨[], []⟩ "p").result = .ok (some r)
    ∧ r.content = .request undocumented.request ∧ ∀ references,
      "id" ∈ (requestFunction r.name undocumented.request).reads
      ∧ ¬ (interfaceFile references r undocumented.request.fields).HasMember "id" := by
  have howner : undocumentedVisit.owner? = some "a" := by decide
  have hextract := extract_endpoint [] "p" (by decide) howner rfl
  refine ⟨_, hextract, rfl, fun references => ⟨?_, ?_⟩⟩
  · have hid : "id" ∈ UrlPath.placeholders (UrlPath.ofUrl undocumented.url) := by
      rw [placeholders_undocumented]
      exact List.mem_singleton_self "id"
    exact List.mem_append_left _ (List.mem_append_left _ hid)
  · rw [hasMember_interfaceFile_iff, exists_field_iff]
    rintro ⟨p, hp, -⟩
    exact absurd hp List.not_mem_nil

/-- The same endpoint with its parameter. -/
def documented : Endpoint := ⟨"get", "/as/:id", [⟨"id", "string", "path", false, ""⟩]⟩

def documentedVisit : Visit :=
  ⟨⟨"Get A", "g", "endpoint", "", "", some documented, []⟩, some "a"⟩

/-- What its function reads is declared. -/
theorem documented_reads_declared : ∃ r,
    (documentedVisit.extract ⟨[], []⟩ "p").result = .ok (some r) ∧ ∀ references,
      ∀ name ∈ (requestFunction r.name documented.request).reads,
        (interfaceFile references r documented.request.fields).HasMember name := by
  obtain ⟨r, hextract, -, -, hreferences⟩ :=
    requestFunction_reads_declared [] "p" "a" documentedVisit documented (by decide)
      (by decide) rfl
  refine ⟨r, hextract, ?_⟩
  intro references
  apply (hreferences references).2.2.2
  intro name hname
  have hurl : UrlPath.ofUrl documented.url = UrlPath.ofUrl undocumented.url := rfl
  rw [hurl, placeholders_undocumented, List.mem_singleton] at hname
  exact ⟨_, List.mem_singleton_self _, .inl rfl, hname.symm⟩

end ClientScribe.Client
