import ClientScribe.Proofs.Client.Bindings
import ClientScribe.Proofs.Client.Identifier
import ClientScribe.Proofs.Docs.Preorder

/-!
Declared names.  The files of a client declare an interface or an enumeration for each reference,
the members of enumerations, and the functions of requests.  Their names come from titles and
bodies, of which each kind of name drops other characters, and whether they are identifiers can be
told from the pages.
-/

namespace ClientScribe

namespace Client

/-- What a file of a client says. -/
inductive SourceFile where
  | interface (file : InterfaceFile)
  | enum (name : String) (values : List EnumValue)
  | api (module : ApiModule)

namespace SourceFile

def text (client : HttpClient) : SourceFile → String
  | .interface file => file.text
  | .enum name values =>
    "export enum " ++ name ++ " \x7b\n" ++ String.join (values.map valueText) ++ "\x7d\n"
  | .api module => module.text client

/-- An interface, an enumeration with its members, or functions. -/
def declares : SourceFile → List String
  | .interface file => [file.name]
  | .enum name values => name :: values.map EnumValue.name
  | .api module => module.functions.map RequestFunction.name

end SourceFile

/-- What the file of a reference says. -/
def declarationFile (references : List Reference) (r : Reference) : SourceFile :=
  match r.content with
  | .type fields => .interface (interfaceFile references r fields)
  | .enum values => .enum r.name values
  | .request request => .interface (interfaceFile references r request.fields)

/-- What the files that a reference gives say, by their paths. -/
def sourceFiles (client : HttpClient) (references : List Reference) (r : Reference) :
    List (String × SourceFile) :=
  (referencePath r, declarationFile references r) ::
    match r.content with
    | .type _ =>
      let children := Reference.children (some r.id) references
      if children.isEmpty then [] else [(apiPath r, .api (apiModule client r children))]
    | _ => []

section

variable {client : HttpClient} {references : List Reference} {r : Reference}

theorem declaration_eq_text_declarationFile :
    declaration references r = (declarationFile references r).text client := by
  cases hcontent : r.content with
  | type fields =>
    have hfields : interfaceFields? r = some fields := by rw [interfaceFields?, hcontent]
    rw [declaration_eq_text hfields, declarationFile, hcontent]
    rfl
  | enum values =>
    rw [declaration, declarationFile, hcontent]
    rfl
  | request request =>
    have hfields : interfaceFields? r = some request.fields := by rw [interfaceFields?, hcontent]
    rw [declaration_eq_text hfields, declarationFile, hcontent]
    rfl

theorem name_mem_declares : r.name ∈ (declarationFile references r).declares := by
  rw [declarationFile]
  split <;> exact List.mem_cons_self

/-- The files are written as they say. -/
theorem filesOf_eq_sourceFiles : filesOf client references r =
    (sourceFiles client references r).map fun f => (f.1, f.2.text client) := by
  have hdeclaration : declaration references r = (declarationFile references r).text client :=
    declaration_eq_text_declarationFile
  rw [filesOf, sourceFiles, List.map_cons, hdeclaration]
  cases r.content with
  | type fields =>
    dsimp only
    split
    · rfl
    · rw [apiText_eq_text]
      rfl
  | enum values => rfl
  | request request => rfl

theorem exists_sourceFile_of_mem_files {f : String × String} (h : f ∈ files client references) :
    ∃ r ∈ references, ∃ s ∈ sourceFiles client references r, f = (s.1, s.2.text client) := by
  obtain ⟨r, hr, hf⟩ := exists_of_mem_files h
  rw [filesOf_eq_sourceFiles] at hf
  obtain ⟨s, hs, rfl⟩ := List.mem_map.1 hf
  exact ⟨r, hr, s, hs, rfl⟩

/-- A reference declares its own name and the names of its values or of the functions that send its
requests. -/
theorem forall_declares_sourceFiles_iff {P : String → Prop} :
    (∀ f ∈ sourceFiles client references r, ∀ name ∈ f.2.declares, P name) ↔
      P r.name ∧ (∀ values, r.content = .enum values → ∀ v ∈ values, P v.name)
      ∧ (r.kind = "type" → ∀ q ∈ (Reference.children (some r.id) references).requests,
        P (functionName q.1.name)) := by
  rw [sourceFiles, List.forall_mem_cons, declarationFile, Reference.kind]
  cases hcontent : r.content with
  | type fields =>
    have hfunctions : (∀ f ∈ (if (Reference.children (some r.id) references).isEmpty then []
          else [(apiPath r, SourceFile.api
            (apiModule client r (Reference.children (some r.id) references)))]),
          ∀ name ∈ f.2.declares, P name) ↔
        ∀ q ∈ (Reference.children (some r.id) references).requests, P (functionName q.1.name) := by
      split
      · rename_i hempty
        rw [Children.isEmpty, Bool.and_eq_true, List.isEmpty_iff] at hempty
        simp [hempty.1]
      · rw [List.forall_mem_singleton, SourceFile.declares, names_functions_apiModule,
          List.forall_mem_map, List.forall_mem_map]
    rw [hfunctions]
    simp [SourceFile.declares, interfaceFile, Content.kind]
  | enum values => simp [SourceFile.declares, Content.kind]
  | request request => simp [SourceFile.declares, interfaceFile, Content.kind]

/-- A type that owns a request is there, so the function of the request is declared. -/
def IsSent (references : List Reference) (r : Reference) : Prop :=
  ∃ t ∈ references, t.kind = "type" ∧ r.parent = some t.id

/-- What all references declare, each name listed with the reference that it is made for. -/
theorem forall_declares_iff {P : String → Prop} :
    (∀ r ∈ references, ∀ f ∈ sourceFiles client references r, ∀ name ∈ f.2.declares, P name) ↔
      ∀ r ∈ references, P r.name
        ∧ (∀ values, r.content = .enum values → ∀ v ∈ values, P v.name)
        ∧ (r.kind = "request" → IsSent references r → P (functionName r.name)) := by
  simp only [forall_declares_sourceFiles_iff]
  constructor
  · intro h r hr
    refine ⟨(h r hr).1, (h r hr).2.1, ?_⟩
    rintro hkind ⟨t, ht, htype, hparent⟩
    obtain ⟨q, hq⟩ := Reference.exists_request?_of_kind hkind
    have hsent := (h t ht).2.2 htype q (Reference.mem_requests_children hr hparent hq)
    rwa [(Reference.of_request?_eq_some hq).1] at hsent
  · intro h r hr
    refine ⟨(h r hr).1, (h r hr).2.1, ?_⟩
    intro htype q hq
    have hmem : q.1 ∈ (Reference.children (some r.id) references).references :=
      List.mem_append_right _ (List.mem_map_of_mem hq)
    obtain ⟨hq', hparent⟩ := Reference.of_mem_children hmem
    exact (h q.1 hq').2.2 (Reference.kind_of_mem_requests_children hq) ⟨r, hr, htype, hparent⟩

end

end Client

/-! ### Names by the pages -/

open Client (Spells isPlainIdentifier isIdentifierStart functionName sourceFiles)

namespace Place

variable {titles : List String} {product : String} {parent : Option String}

/-- The clean title of a page. -/
def title (titles : List String) (p : Place) : List Char :=
  (Title.clean titles p.page.title).toList

/-- The names that are made from a page among those that count: what is kept of its title begins an
identifier and has no other characters, and there is something of it where the topic adds nothing;
and the entries of an error list begin identifiers. -/
def SpellsNames (titles : List String) (parent : Option String) (counted : List Place)
    (p : Place) : Topic → Prop
  | .typeDefinition =>
    Spells (fun c => !Text.isBlank c) (Text.dropMarker "Object".toList (p.title titles))
    ∧ (Text.dropMarker "Object".toList (p.title titles)).filter (fun c => !Text.isBlank c) ≠ []
  | .errorList =>
    Spells (fun c => !Text.isBlank c) (Text.dropMarker "Errors".toList (p.title titles))
    ∧ ∀ v ∈ Body.errors p.page.body, v.name.toList.head?.all isIdentifierStart = true
  | .endpoint =>
    Spells (· ≠ '-') ((Text.words (p.title titles)).flatMap Title.capitalize)
    ∧ ((∃ q ∈ counted, q.page.topic titles = .typeDefinition
        ∧ p.owner parent = some q.page.slug) →
      ((Text.words (p.title titles)).flatMap Title.capitalize).filter (· ≠ '-') ≠ [])
  | .sequence | .webhook | .unrecognized => True

instance (titles : List String) (parent : Option String) (counted : List Place) (p : Place)
    (topic : Topic) : Decidable (p.SpellsNames titles parent counted topic) :=
  match topic with
  | .typeDefinition | .errorList | .endpoint => inferInstanceAs (Decidable (_ ∧ _))
  | .sequence | .webhook | .unrecognized => inferInstanceAs (Decidable True)

theorem forall_iff_of_forall₂ {α β : Type} {R : α → β → Prop} {P : α → Prop} {Q : β → Prop}
    {as : List α} {bs : List β} (h : List.Forall₂ R as bs) (hiff : ∀ a b, R a b → (P a ↔ Q b)) :
    (∀ a ∈ as, P a) ↔ ∀ b ∈ bs, Q b := by
  induction h with
  | nil => simp
  | cons hab _ ih => rw [List.forall_mem_cons, List.forall_mem_cons, hiff _ _ hab, ih]

theorem exists_iff_of_forall₂ {α β : Type} {R : α → β → Prop} {P : α → Prop} {Q : β → Prop}
    {as : List α} {bs : List β} (h : List.Forall₂ R as bs) (hiff : ∀ a b, R a b → (P a ↔ Q b)) :
    (∃ a ∈ as, P a) ↔ ∃ b ∈ bs, Q b := by
  have hnot := forall_iff_of_forall₂ h fun a b hab => not_congr (hiff a b hab)
  rw [← not_iff_not]
  push Not
  exact hnot

/-- A page that owns something is a type page exactly if its reference is a type. -/
theorem Gives.isType_iff [Interpreter] {p : Place} {r : Reference}
    (h : Gives titles product parent p r) (owner : Option String) :
    p.page.topic titles = .typeDefinition ∧ owner = some p.page.slug ↔
      r.kind = "type" ∧ owner = some r.id := by
  cases h with
  | type htopic => simp [htopic, Reference.kind, Content.kind]
  | errors htopic => simp [htopic, Reference.kind, Content.kind]
  | request htopic => simp [htopic, Reference.kind, Content.kind]

/-- The names that a reference is made for are identifiers if its page spells them. -/
theorem Gives.spellsNames_iff [Interpreter] {counted : List Place} {rs : List Reference} {p : Place}
    {r : Reference} (hall : List.Forall₂ (Gives titles product parent) counted rs)
    (h : Gives titles product parent p r) :
    p.SpellsNames titles parent counted (p.page.topic titles) ↔
      isPlainIdentifier r.name.toList = true
      ∧ (∀ values, r.content = .enum values → ∀ v ∈ values, isPlainIdentifier v.name.toList = true)
      ∧ (r.kind = "request" → Client.IsSent rs r →
        isPlainIdentifier (functionName r.name).toList = true) := by
  cases h with
  | type htopic =>
    simp only [htopic, SpellsNames, title, Client.isPlainIdentifier_typeName_iff, Reference.kind,
      Content.kind]
    simp
  | errors htopic howner =>
    simp only [htopic, SpellsNames, title, Client.isPlainIdentifier_enumName_iff, Reference.kind,
      Content.kind, Content.enum.injEq, forall_eq']
    have hvalues : (∀ v ∈ Body.errors p.page.body, isPlainIdentifier v.name.toList = true) ↔
        ∀ v ∈ Body.errors p.page.body, v.name.toList.head?.all isIdentifierStart = true :=
      forall₂_congr fun v hv => Client.isPlainIdentifier_iff_of_mem_errors hv
    rw [hvalues]
    simp
  | @request slug endpoint htopic howner hendpoint =>
    have hsent : (∃ q ∈ counted, q.page.topic titles = .typeDefinition
          ∧ p.owner parent = some q.page.slug) ↔
        ∃ t ∈ rs, t.kind = "type" ∧ p.owner parent = some t.id :=
      exists_iff_of_forall₂ hall fun q t ht => ht.isType_iff (p.owner parent)
    rw [howner] at hsent
    simp only [htopic, SpellsNames, title, Client.isPlainIdentifier_requestName_iff]
    refine and_congr_right fun hspells => ?_
    rw [Client.isPlainIdentifier_functionName_iff hspells, howner, hsent]
    constructor
    · intro h
      exact ⟨fun values hvalues => absurd hvalues (by simp), fun _ => h⟩
    · intro h
      exact h.2 rfl

end Place

/-- Without overrides every file is written from what its reference declares, and the declared names
are identifiers exactly if the pages that count spell them. -/
theorem declared_names_identifiers_iff [Interpreter] (client : Client.HttpClient)
    (titles : List String) (product : String) (parent : Option String) (n : DocNode)
    (rs : List Reference) (h : (n.extract ⟨[], titles⟩ product parent).result = .ok rs) :
    (∀ f ∈ Client.files client rs, ∃ r ∈ rs, ∃ s ∈ sourceFiles client rs r,
      f = (s.1, s.2.text client))
    ∧ ((∀ r ∈ rs, ∀ f ∈ sourceFiles client rs r, ∀ name ∈ f.2.declares,
        isPlainIdentifier name.toList = true) ↔
      ∀ p ∈ (n.places []).filter (Place.counts titles parent),
        p.SpellsNames titles parent ((n.places []).filter (Place.counts titles parent))
          (p.page.topic titles)) := by
  have hall := extract_preorder titles product parent n rs h
  refine ⟨fun f => Client.exists_sourceFile_of_mem_files, ?_⟩
  rw [Client.forall_declares_iff (P := fun name => isPlainIdentifier name.toList = true)]
  exact (Place.forall_iff_of_forall₂ hall fun p r hp => hp.spellsNames_iff hall).symm

/-! ### A hyphen in a title -/

/-- A page of a type without fields. -/
def titledPage (title : String) (children : List DocNode) : DocNode :=
  ⟨title, "a", "basic", "[block:parameters]{}[/block]", "", none, children⟩

/-- Hyphens are dropped from the titles of endpoints only. -/
theorem hyphen_declared : ∃ rs r,
    ((titledPage "Pay-out Object" []).extract ⟨[], []⟩ "p" none).result = .ok rs
    ∧ Client.files Client.HttpClient.usual rs =
      [("p/types/Pay-out.ts", "export interface Pay-out \x7b\n\x7d\n")]
    ∧ r ∈ rs ∧ ∃ f ∈ sourceFiles Client.HttpClient.usual rs r, "Pay-out" ∈ f.2.declares
      ∧ isPlainIdentifier "Pay-out".toList = false := by
  have hfound : (((titledPage "Pay-out Object" []).extract ⟨[], []⟩ "p" none).result.toOption.any
      fun rs => rs.map Reference.name == ["Pay-out"]
        && Client.files Client.HttpClient.usual rs ==
          [("p/types/Pay-out.ts", "export interface Pay-out \x7b\n\x7d\n")]) = true := by
    decide +kernel
  obtain ⟨rs, hrs, hnames⟩ := Outcome.exists_of_any hfound
  rw [Bool.and_eq_true] at hnames
  have hmem : "Pay-out" ∈ rs.map Reference.name := by
    rw [eq_of_beq hnames.1]
    exact List.mem_cons_self
  obtain ⟨r, hr, hname⟩ := List.mem_map.1 hmem
  refine ⟨rs, r, hrs, eq_of_beq hnames.2, hr, _, List.mem_cons_self, ?_, by decide⟩
  rw [← hname]
  exact Client.name_mem_declares

/-- A type with errors and a request. -/
def plainTree : DocNode :=
  titledPage "Payout Object"
    [⟨"Payout Errors", "e", "basic", "**E1**\nfirst\n", "", none, []⟩,
     ⟨"Pay-out now", "g", "endpoint", "", "", some ⟨"get", "/payouts", []⟩, []⟩]

theorem plainTree_declares_identifiers : ∃ rs,
    (plainTree.extract ⟨[], []⟩ "p" none).result = .ok rs
    ∧ (rs.flatMap fun r => (sourceFiles Client.HttpClient.usual rs r).flatMap fun f =>
      f.2.declares) = ["Payout", "payoutNow", "PayoutError", "E1", "PayoutNowRequest"]
    ∧ ∀ r ∈ rs, ∀ f ∈ sourceFiles Client.HttpClient.usual rs r, ∀ name ∈ f.2.declares,
      isPlainIdentifier name.toList = true := by
  have hfound : ((plainTree.extract ⟨[], []⟩ "p" none).result.toOption.any fun rs =>
      (rs.flatMap fun r => (sourceFiles Client.HttpClient.usual rs r).flatMap fun f =>
        f.2.declares) == ["Payout", "payoutNow", "PayoutError", "E1", "PayoutNowRequest"])
      = true := by
    decide +kernel
  obtain ⟨rs, hrs, hnames⟩ := Outcome.exists_of_any hfound
  refine ⟨rs, hrs, eq_of_beq hnames, ?_⟩
  exact (declared_names_identifiers_iff Client.HttpClient.usual [] "p" none plainTree rs hrs).2.2
    (by decide +kernel)

end ClientScribe
