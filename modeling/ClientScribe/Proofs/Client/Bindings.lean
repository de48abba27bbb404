import ClientScribe.Proofs.Client.Imports
import ClientScribe.Proofs.Client.RequestFunction

/-!
How often a module binds a name.  References are told apart by their ids and modules by their paths,
but what a module binds are names: it binds one twice as soon as it meets two references of that
name.
-/

namespace ClientScribe.Client

/-! ### Interface files -/

/-- What the file imports has other names than what it declares, and different import lines have
different names. -/
def InterfaceFile.BindsOnce (file : InterfaceFile) : Prop :=
  (∀ i ∈ file.imports, i.name ≠ file.name)
  ∧ ∀ i ∈ file.imports, ∀ j ∈ file.imports, i.name = j.name → i.line = j.line

instance (file : InterfaceFile) : Decidable file.BindsOnce := inferInstanceAs (Decidable (_ ∧ _))

theorem importLine_inj {name path path' : String} :
    importLine name path = importLine name path' ↔ path = path' := by
  rw [importLine, importLine, String.append_left_inj, String.append_right_inj]

/-- The fields refer to a reference that has another file. -/
def ImportsReference (references : List Reference) (r : Reference) (fields : List TypeField)
    (t : Reference) : Prop :=
  RefersTo references fields t ∧ referencePath t ≠ referencePath r

section

variable {client : HttpClient} {references : List Reference} {r : Reference}
  {fields : List TypeField}

theorem mem_imports_interfaceFile {i : Import} :
    i ∈ (interfaceFile references r fields).imports ↔
      ∃ t, ImportsReference references r fields t ∧ i = importFrom r t := by
  simp only [interfaceFile, mem_importsFor, ImportsReference, and_assoc]

theorem interfaceFile_bindsOnce_iff : (interfaceFile references r fields).BindsOnce ↔
    (∀ t, ImportsReference references r fields t → t.name ≠ r.name)
    ∧ ∀ t u, ImportsReference references r fields t → ImportsReference references r fields u →
      t.name = u.name → (importFrom r t).path = (importFrom r u).path := by
  have hline {t u : Reference} (hname : t.name = u.name) :
      (importFrom r t).line = (importFrom r u).line ↔
        (importFrom r t).path = (importFrom r u).path := by
    rw [Import.line, Import.line, importFrom, importFrom, hname]
    exact importLine_inj
  have himport {t : Reference} (ht : ImportsReference references r fields t) :
      importFrom r t ∈ (interfaceFile references r fields).imports :=
    mem_imports_interfaceFile.2 ⟨t, ht, rfl⟩
  constructor
  · rintro ⟨hown, hlines⟩
    constructor
    · intro t ht
      exact hown _ (himport ht)
    · intro t u ht hu hname
      exact (hline hname).1 (hlines _ (himport ht) _ (himport hu) hname)
  · rintro ⟨hown, hpaths⟩
    constructor
    · intro i hi
      obtain ⟨t, ht, rfl⟩ := mem_imports_interfaceFile.1 hi
      exact hown t ht
    · intro i hi j hj hname
      obtain ⟨t, ht, rfl⟩ := mem_imports_interfaceFile.1 hi
      obtain ⟨u, hu, rfl⟩ := mem_imports_interfaceFile.1 hj
      exact (hline hname).2 (hpaths t u ht hu hname)

/-- Different files are imported from different modules. -/
theorem referencePath_eq_of_importFrom {t u : Reference} (hr : r.IsPlain) (ht : t.IsPlain)
    (hu : u.IsPlain) (h : (importFrom r t).path = (importFrom r u).path) :
    referencePath t = referencePath u := by
  calc referencePath t
    _ = importedPath (Path.directory (referencePath r)) (importFrom r t).path :=
      (importedPath_referencePath hr ht).symm
    _ = importedPath (Path.directory (referencePath r)) (importFrom r u).path := by rw [h]
    _ = referencePath u := importedPath_referencePath hr hu

theorem hasNoSlash_of_isPlain {t : Reference} (h : t.IsPlain) : t.HasNoSlash :=
  ⟨h.product.noSlash, h.name.noSlash⟩

/-- An interface file binds each name once exactly if references of one name, among its own and
those that its fields refer to, have one file. -/
theorem interfaceFile_bindsOnce_iff_placement (hplain : ∀ r ∈ references, r.IsPlain)
    (hr : r ∈ references) : (interfaceFile references r fields).BindsOnce ↔
      ∀ t u, t = r ∨ RefersTo references fields t → u = r ∨ RefersTo references fields u →
        t.name = u.name → placement t = placement u := by
  have hmem {t : Reference} (ht : t = r ∨ RefersTo references fields t) : t.IsPlain := by
    rcases ht with rfl | ht
    · exact hplain t hr
    · exact hplain t ht.mem
  have hplaced {t u : Reference} (ht : t = r ∨ RefersTo references fields t)
      (hu : u = r ∨ RefersTo references fields u) :
      referencePath t = referencePath u ↔ placement t = placement u :=
    referencePath_eq_iff (hasNoSlash_of_isPlain (hmem ht)) (hasNoSlash_of_isPlain (hmem hu))
  have hnear {t : Reference} (ht : t = r ∨ RefersTo references fields t)
      (hpath : referencePath t ≠ referencePath r) : ImportsReference references r fields t := by
    rcases ht with rfl | ht
    · exact absurd rfl hpath
    · exact ⟨ht, hpath⟩
  have hname {t : Reference} (ht : t = r ∨ RefersTo references fields t)
      (hpath : referencePath t = referencePath r) : t.name = r.name :=
    congrArg (·.2.2) ((hplaced ht (.inl rfl)).1 hpath)
  rw [interfaceFile_bindsOnce_iff]
  constructor
  · rintro ⟨hown, hpaths⟩ t u ht hu hsame
    apply (hplaced ht hu).1
    by_cases htr : referencePath t = referencePath r
    · by_cases hur : referencePath u = referencePath r
      · rw [htr, hur]
      · exact absurd (hsame.symm.trans (hname ht htr)) (hown u (hnear hu hur))
    · by_cases hur : referencePath u = referencePath r
      · exact absurd (hsame.trans (hname hu hur)) (hown t (hnear ht htr))
      · exact referencePath_eq_of_importFrom (hplain r hr) (hmem ht) (hmem hu)
          (hpaths t u (hnear ht htr) (hnear hu hur) hsame)
  · intro hplaces
    constructor
    · intro t ht hsame
      exact ht.2 ((hplaced (.inr ht.1) (.inl rfl)).2 (hplaces t r (.inr ht.1) (.inl rfl) hsame))
    · intro t u ht hu hsame
      have hpath := (hplaced (.inr ht.1) (.inr hu.1)).2 (hplaces t u (.inr ht.1) (.inr hu.1) hsame)
      rw [importFrom, importFrom, hpath]

end

/-! ### API modules -/

/-- What an API module says. -/
structure ApiModule where
  imports : List Import
  owner : String
  error : String
  functions : List RequestFunction

def RequestFunction.name (f : RequestFunction) : String := functionName f.request

namespace ApiModule

def text (client : HttpClient) (m : ApiModule) : String :=
  "\n".intercalate (m.imports.map Import.line) ++ "\n"
    ++ String.join (m.functions.map fun f => "\n" ++ f.text client m.owner m.error)

/-- No name is imported or declared twice. -/
def BindsOnce (m : ApiModule) : Prop :=
  (m.imports.map Import.name ++ m.functions.map RequestFunction.name).Nodup

instance (m : ApiModule) : Decidable m.BindsOnce := inferInstanceAs (Decidable (List.Nodup _))

end ApiModule

/-- The API module of a type. -/
def apiModule (client : HttpClient) (r : Reference) (c : Children) : ApiModule where
  imports :=
    ⟨client.name, importPath (Path.join r.product "apis") client.path⟩ :: siblingImports r c
  owner := r.name
  error := (c.enum.map Reference.name).getD "Error"
  functions := c.requests.map fun q => requestFunction q.1.name q.2

/-- An API module is written as it says. -/
theorem apiText_eq_text (client : HttpClient) (r : Reference) (c : Children) :
    apiText client r c = (apiModule client r c).text client := by
  have hfunctions (error : String) : (fun q => "\n" ++ functionText client r.name error q) =
      fun q => "\n" ++ (requestFunction q.1.name q.2).text client r.name error :=
    funext fun q => by rw [functionText_eq]
  have hline : Import.line = fun i => importLine i.name i.path := rfl
  simp only [apiText, ApiModule.text, apiModule, apiImports_eq, hfunctions, hline, List.map_cons,
    List.map_map, Function.comp_def]

/-- What an API module imports besides the requests. -/
def fixedNames (client : HttpClient) (r : Reference) (c : Children) : List String :=
  client.name :: r.name :: c.enum.toList.map Reference.name

section

variable {client : HttpClient} {references : List Reference} {r : Reference} {c : Children}

theorem names_imports_apiModule : (apiModule client r c).imports.map Import.name =
    fixedNames client r c ++ c.requests.map fun q => q.1.name := by
  simp [apiModule, siblingImports, siblingImport, fixedNames, Function.comp_def]

theorem names_functions_apiModule : (apiModule client r c).functions.map RequestFunction.name =
    (c.requests.map fun q => q.1.name).map functionName := by
  simp [apiModule, RequestFunction.name, requestFunction]

/-- When some names and what becomes of them are distinct, also from fixed ones. -/
theorem nodup_append_map_iff {fixed names : List String} {g : String → String} :
    (fixed ++ (names ++ names.map g)).Nodup ↔
      fixed.Nodup ∧ (names.map g).Nodup ∧ (∀ n ∈ names, n ∉ fixed ∧ g n ∉ fixed)
      ∧ ∀ n ∈ names, ∀ n' ∈ names, g n ≠ n' := by
  rw [List.nodup_append', List.nodup_append']
  constructor
  · rintro ⟨hfixed, ⟨-, hmap, hdisjoint⟩, hapart⟩
    refine ⟨hfixed, hmap, ?_, ?_⟩
    · intro n hn
      exact ⟨fun h => hapart h (List.mem_append_left _ hn),
        fun h => hapart h (List.mem_append_right _ (List.mem_map_of_mem hn))⟩
    · rintro n hn _ hn' rfl
      exact hdisjoint hn' (List.mem_map_of_mem hn)
  · rintro ⟨hfixed, hmap, houtside, hdiffer⟩
    refine ⟨hfixed, ⟨hmap.of_map, hmap, ?_⟩, ?_⟩
    · intro n hn hmem
      obtain ⟨n', hn', rfl⟩ := List.mem_map.1 hmem
      exact hdiffer n' hn' _ hn rfl
    · intro n hn hmem
      rcases List.mem_append.1 hmem with hmem | hmem
      · exact (houtside n hmem).1 hn
      · obtain ⟨n', hn', rfl⟩ := List.mem_map.1 hmem
        exact (houtside n' hn').2 hn

/-- An API module binds each name once exactly if no request, and no function of one, is named like
another thing that it binds. -/
theorem apiModule_bindsOnce_iff (hids : (c.requests.map fun q => q.1.id).Nodup) :
    (apiModule client r c).BindsOnce ↔
      (fixedNames client r c).Nodup
      ∧ (∀ q ∈ c.requests, q.1.name ∉ fixedNames client r c
        ∧ functionName q.1.name ∉ fixedNames client r c)
      ∧ ∀ q ∈ c.requests, ∀ q' ∈ c.requests, functionName q.1.name ≠ q'.1.name
        ∧ (functionName q.1.name = functionName q'.1.name → q.1.id = q'.1.id) := by
  have hinjective : ((c.requests.map fun q => q.1.name).map functionName).Nodup ↔
      ∀ q ∈ c.requests, ∀ q' ∈ c.requests,
        functionName q.1.name = functionName q'.1.name → q.1.id = q'.1.id := by
    rw [List.map_map, List.nodup_map_iff_inj_on hids.of_map]
    constructor
    · intro h q hq q' hq' hsame
      rw [h q hq q' hq' hsame]
    · intro h q hq q' hq' hsame
      exact List.inj_on_of_nodup_map hids hq hq' (h q hq q' hq' hsame)
  rw [ApiModule.BindsOnce, names_imports_apiModule, names_functions_apiModule, List.append_assoc,
    nodup_append_map_iff, hinjective]
  simp only [List.forall_mem_map]
  constructor
  · rintro ⟨hfixed, hfunctions, houtside, hdiffer⟩
    exact ⟨hfixed, houtside, fun q hq q' hq' => ⟨hdiffer q hq q' hq', hfunctions q hq q' hq'⟩⟩
  · rintro ⟨hfixed, houtside, hpairs⟩
    exact ⟨hfixed, fun q hq q' hq' => (hpairs q hq q' hq').2, houtside,
      fun q hq q' hq' => (hpairs q hq q' hq').1⟩

end

/-! ### Every module of a client -/

theorem interfaceFields?_eq_none_iff {r : Reference} :
    interfaceFields? r = none ↔ r.kind = "enum" := by
  rw [interfaceFields?, Reference.kind]
  cases r.content <;> simp [Content.kind]

/-- Every file is an API module, an interface file or an enumeration. -/
theorem mem_files_module {client : HttpClient} {references : List Reference} {f : String × String}
    (h : f ∈ files client references) : ∃ r ∈ references,
      f = (apiPath r,
        (apiModule client r (Reference.children (some r.id) references)).text client)
      ∨ (∃ fields, interfaceFields? r = some fields
        ∧ f = (referencePath r, (interfaceFile references r fields).text))
      ∨ r.kind = "enum" ∧ f = (referencePath r, declaration references r) := by
  rcases mem_files_cases h with ⟨r, hr, rfl⟩ | ⟨r, ⟨before, behind, hreferences, -⟩, rfl⟩
  · exact ⟨r, hr, .inl (by rw [apiText_eq_text])⟩
  · refine ⟨r, by simp [hreferences], .inr ?_⟩
    cases hfields : interfaceFields? r with
    | none => exact .inr ⟨interfaceFields?_eq_none_iff.1 hfields, rfl⟩
    | some fields => exact .inl ⟨fields, rfl, by rw [declaration_eq_text hfields]⟩

/-- When the files of references with distinct ids bind each of their names once. -/
theorem modules_bind_once_iff (client : HttpClient) (references : List Reference)
    (hids : (references.map Reference.id).Nodup) :
    (∀ f ∈ files client references, ∃ r ∈ references,
      f = (apiPath r,
        (apiModule client r (Reference.children (some r.id) references)).text client)
      ∨ (∃ fields, interfaceFields? r = some fields
        ∧ f = (referencePath r, (interfaceFile references r fields).text))
      ∨ r.kind = "enum" ∧ f = (referencePath r, declaration references r))
    ∧ (∀ r fields, (interfaceFile references r fields).BindsOnce ↔
      (∀ t, ImportsReference references r fields t → t.name ≠ r.name)
      ∧ ∀ t u, ImportsReference references r fields t → ImportsReference references r fields u →
        t.name = u.name → (importFrom r t).path = (importFrom r u).path)
    ∧ ((∀ r ∈ references, r.IsPlain) → ∀ r ∈ references, ∀ fields,
      ((interfaceFile references r fields).BindsOnce ↔
        ∀ t u, t = r ∨ RefersTo references fields t → u = r ∨ RefersTo references fields u →
          t.name = u.name → placement t = placement u))
    ∧ ∀ r c, c = Reference.children (some r.id) references →
      ((apiModule client r c).BindsOnce ↔
        (fixedNames client r c).Nodup
        ∧ (∀ q ∈ c.requests, q.1.name ∉ fixedNames client r c
          ∧ functionName q.1.name ∉ fixedNames client r c)
        ∧ ∀ q ∈ c.requests, ∀ q' ∈ c.requests, functionName q.1.name ≠ q'.1.name
          ∧ (functionName q.1.name = functionName q'.1.name → q.1.id = q'.1.id)) := by
  refine ⟨fun f => mem_files_module, fun r fields => interfaceFile_bindsOnce_iff,
    fun hplain r hr fields => interfaceFile_bindsOnce_iff_placement hplain hr, ?_⟩
  rintro r c rfl
  apply apiModule_bindsOnce_iff
  have hsublist : ((Reference.children (some r.id) references).requests.map Prod.fst).Sublist
      references := Reference.requests_children_sublist
  have hsublist := hsublist.map Reference.id
  rw [List.map_map] at hsublist
  exact hids.sublist hsublist

/-! ### Two references of one name -/

def ownsRequests : Reference := ⟨"p", none, "a", "A", "", .type []⟩

/-- One endpoint of the type, documented under some id. -/
def getsA (id : String) : Reference :=
  ⟨"p", some "a", id, "GetARequest", "", .request ⟨"GET", "/as", [], [], [], []⟩⟩

/-- A type with two pages of one endpoint. -/
def twins : List Reference := [ownsRequests, getsA "g", getsA "h"]

/-- The API module imports the request twice and declares its function twice. -/
theorem twins_bound_twice :
    (twins.map Reference.id).Nodup
    ∧ ("p/apis/A.ts",
        (apiModule .usual ownsRequests (Reference.children (some "a") twins)).text .usual) ∈
      files .usual twins
    ∧ ¬ (apiModule .usual ownsRequests (Reference.children (some "a") twins)).BindsOnce := by
  decide +kernel

def meetingFields : List TypeField :=
  [⟨"x", ["b", "c"].map fun id => { TypeNode.plain "object" with id := some id }, true, ""⟩]

/-- A type whose field takes types of two other products, both of one name. -/
def meetsNamesakes : Reference := ⟨"p", none, "a", "A", "", .type meetingFields⟩

def namesakes : List Reference :=
  [meetsNamesakes, ⟨"q", none, "b", "B", "", .type []⟩, ⟨"s", none, "c", "B", "", .type []⟩]

/-- The interface file imports the name from both products. -/
theorem namesakes_bound_twice :
    (namesakes.map Reference.id).Nodup
    ∧ declaration namesakes meetsNamesakes =
      "import \x7b B \x7d from '../../q/types/B';\nimport \x7b B \x7d from '../../s/types/B';\n\n"
        ++ "export interface A \x7b\n  x: Partial<B> | Partial<B>;\n\x7d\n"
    ∧ ¬ (interfaceFile namesakes meetsNamesakes meetingFields).BindsOnce := by
  decide

/-- A type that refers to another one and owns an error list and a request. -/
def apart : List Reference :=
  [crossing, crossed, ⟨"p", some "a", "e", "AError", "", .enum []⟩, getsA "g"]

theorem refersTo_crossingFields {references : List Reference} {t : Reference} :
    RefersTo references crossingFields t ↔ Reference.find? "b" references = some t := by
  rw [refersTo_iff]
  simp [crossingFields, typeIds, nodeIds, elementIds, TypeNode.arrayOf, TypeNode.plain]

theorem apart_bound_once :
    (apart.map Reference.id).Nodup
    ∧ (interfaceFile apart crossing crossingFields).BindsOnce
    ∧ (apiModule .usual crossing (Reference.children (some "a") apart)).BindsOnce := by
  have hids : (apart.map Reference.id).Nodup := by decide
  have hplain : ∀ r ∈ apart, r.IsPlain := by
    intro r hr
    simp only [apart, List.mem_cons, List.not_mem_nil, or_false] at hr
    rcases hr with rfl | rfl | rfl | rfl <;> decide
  obtain ⟨-, -, hinterface, happ⟩ := modules_bind_once_iff .usual apart hids
  refine ⟨hids, ?_, ?_⟩
  · apply (hinterface hplain crossing List.mem_cons_self crossingFields).2
    have hnear {t : Reference} (ht : t = crossing ∨ RefersTo apart crossingFields t) :
        t = crossing ∨ t = crossed := by
      have hcrossed : Reference.find? "b" apart = some crossed := rfl
      rw [refersTo_crossingFields, hcrossed, Option.some_inj] at ht
      exact ht.imp_right Eq.symm
    intro t u ht hu hname
    rcases hnear ht with rfl | rfl <;> rcases hnear hu with rfl | rfl
    · rfl
    · exact absurd hname (by decide)
    · exact absurd hname (by decide)
    · rfl
  · apply (happ crossing _ rfl).2
    decide +kernel

end ClientScribe.Client
