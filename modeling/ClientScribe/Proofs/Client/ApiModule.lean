import ClientScribe.Proofs.Client.Files
import ClientScribe.Proofs.Client.InterfaceFile
import ClientScribe.Proofs.Docs.Ownership
import ClientScribe.Proofs.Reference.Children

/-!
What the imports of an API module lead to.  The module looks for the type, its error list and its
requests in the directories next to its own, which are those of one product; what it gathers by the
id of the type alone may belong to another product.
-/

namespace ClientScribe.Client

open ClientScribe.Path (IsSegment threeSegments)

/-- The import of what stands next to the module, in the directory of its kind. -/
def siblingImport (kind name : String) : Import := ⟨name, "../" ++ kind ++ "s/" ++ name⟩

/-- The imports of an API module but for the HTTP client. -/
def siblingImports (r : Reference) (c : Children) : List Import :=
  siblingImport "type" r.name :: c.enum.toList.map (fun e => siblingImport "enum" e.name)
    ++ c.requests.map fun q => siblingImport "request" q.1.name

/-- The text of an API module begins with these imports. -/
theorem apiImports_eq (client : HttpClient) (r : Reference) (c : Children) :
    apiImports client r c =
      importLine client.name (importPath (Path.join r.product "apis") client.path) ::
        (siblingImports r c).map fun i => importLine i.name i.path := by
  have htype : "../" ++ "type" ++ "s/" = "../types/" := by decide
  have henum : "../" ++ "enum" ++ "s/" = "../enums/" := by decide
  have hrequest : "../" ++ "request" ++ "s/" = "../requests/" := by decide
  simp only [apiImports, siblingImports, siblingImport, htype, henum, hrequest, List.map_append,
    List.map_cons, List.map_map, Function.comp_def, List.cons_append, List.nil_append]

/-- What is gathered is looked for by its own kind and name. -/
theorem siblingImports_children (parent : Option String) (references : List Reference)
    (r : Reference) :
    siblingImports r (Reference.children parent references) =
      siblingImport "type" r.name ::
        (Reference.children parent references).references.map fun t =>
          siblingImport t.kind t.name := by
  rw [siblingImports, Children.references, List.map_append, List.map_map, List.cons_append]
  congr 2
  · apply List.map_congr_left
    intro e he
    rw [Reference.kind_of_mem_enum_children (Option.mem_toList.1 he)]
  · apply List.map_congr_left
    intro q hq
    rw [Function.comp_apply, Reference.kind_of_mem_requests_children hq]

/-! ### Where imports lead -/

/-- The path that a module in a directory imports. -/
def importedPath (directory module : String) : String :=
  String.ofList (['/'].intercalate
    (Path.resolve ('/' :: Path.joinChars directory.toList (module ++ ".ts").toList)))

/-- An import of the module at a path leads to a file that declares the imported name. -/
def Resolves (fs : Files) (own : String) (i : Import) : Prop :=
  ∃ content, (importedPath (Path.directory own) i.path, content) ∈ fs ∧ Declares content i.name

/-- From an API module, a sibling of a kind is looked for in the product of the module. -/
theorem importedPath_siblingImport {r : Reference} (hr : r.IsPlain) (c : Content) {name : String}
    (hname : IsSegment name.toList) :
    importedPath (Path.directory (apiPath r)) (siblingImport c.kind name).path =
      filePath r.product (c.kind ++ "s") name := by
  have hapis : IsSegment "apis".toList := by decide
  have hfile : '/' ∉ name.toList ++ ".ts".toList := noSlash_fileName hname.noSlash
  have hdirectory : Path.directory (apiPath r) =
      String.ofList (r.product.toList ++ '/' :: "apis".toList) := by
    rw [apiPath_eq hr, filePath]
    exact Path.directory_threeSegments hr.product hapis (noSlash_fileName hr.name.noSlash)
  have hmodule : ((siblingImport c.kind name).path ++ ".ts").toList =
      ['.', '.'] ++ '/' :: ((c.kind ++ "s").toList ++ '/' :: (name.toList ++ ".ts".toList)) := by
    simp [siblingImport, String.toList_append]
  have hhead : (['.', '.'] ++ '/' :: ((c.kind ++ "s").toList
      ++ '/' :: (name.toList ++ ".ts".toList))).head? ≠ some '/' := by
    simp
  rw [importedPath, hdirectory, hmodule, String.toList_ofList, Path.joinChars, if_neg hhead,
    if_neg (by simp)]
  have hresolve := Path.resolve_sibling hr.product hapis (isSegment_kinds c)
    (IsSegment.append hname.noSlash (t := ".ts".toList) (by decide) (by decide))
  simp only [List.append_assoc, List.cons_append] at hresolve ⊢
  rw [hresolve, filePath, threeSegments]
  simp [List.intercalate, List.intersperse]

section

variable {client : HttpClient} {references : List Reference}

/-- The import leads to the file of a reference with that kind and name in the product. -/
theorem resolves_siblingImport_iff (hplain : ∀ r ∈ references, r.IsPlain) {r : Reference}
    (hr : r.IsPlain) (c : Content) {name : String} (hname : IsSegment name.toList) :
    Resolves (files client references) (apiPath r) (siblingImport c.kind name) ↔
      ∃ u ∈ references, u.product = r.product ∧ u.kind = c.kind ∧ u.name = name := by
  rw [Resolves, importedPath_siblingImport hr c hname]
  constructor
  · rintro ⟨content, hmem, -⟩
    obtain ⟨u, hu, hproduct, hkind, hsame, -⟩ :=
      exists_reference_of_mem_files hplain hr.product.noSlash hname.noSlash hmem
    exact ⟨u, hu, hproduct, hkind, hsame⟩
  · rintro ⟨u, hu, hproduct, hkind, rfl⟩
    have hfile : ∃ content, (filePath u.product (u.kind ++ "s") u.name, content) ∈
        files client references := exists_file_of_mem hplain hu
    obtain ⟨content, hmem⟩ := hfile
    rw [hproduct, hkind] at hmem
    -- the path may have been written again, by a reference of the same product, kind and name
    obtain ⟨w, -, -, -, hsame, rfl⟩ :=
      exists_reference_of_mem_files hplain hr.product.noSlash hname.noSlash hmem
    refine ⟨_, hmem, ?_⟩
    have hdeclares := declares_declaration references w
    rwa [hsame] at hdeclares

/-- What an API module imports is there exactly if everything that it gathers has a namesake of its
kind in the product of the module. -/
theorem siblingImports_resolve_iff (hplain : ∀ r ∈ references, r.IsPlain) {r : Reference}
    (hr : r ∈ references) (hkind : r.kind = "type") :
    (∀ i ∈ siblingImports r (Reference.children (some r.id) references),
        Resolves (files client references) (apiPath r) i) ↔
      ∀ t ∈ (Reference.children (some r.id) references).references,
        ∃ u ∈ references, u.product = r.product ∧ u.kind = t.kind ∧ u.name = t.name := by
  have hr' := hplain r hr
  rw [siblingImports_children, List.forall_mem_cons, List.forall_mem_map]
  constructor
  · rintro ⟨-, howned⟩ t ht
    have ht' := hplain t (Reference.of_mem_children ht).1
    exact (resolves_siblingImport_iff hplain hr' t.content ht'.name).1 (howned t ht)
  · intro howned
    constructor
    · rw [← hkind]
      exact (resolves_siblingImport_iff hplain hr' r.content hr'.name).2 ⟨r, hr, rfl, rfl, rfl⟩
    · intro t ht
      have ht' := hplain t (Reference.of_mem_children ht).1
      exact (resolves_siblingImport_iff hplain hr' t.content ht'.name).2 (howned t ht)

end

/-- In collected references, what an API module imports leads to files that declare what it names
exactly if everything gathered by the id of the type has a namesake of its kind in the product of
the module.  That is so wherever no type is documented by two products. -/
theorem apiModule_imports_resolve [Interpreter] (fetch : Fetch) (titles : List String)
    (products : List Product) (references : List Reference)
    (hcollect : (collectFrom fetch ⟨[], titles⟩ products).result = .ok references)
    (hplain : ∀ r ∈ references, r.IsPlain) (client : HttpClient) :
    (∀ web, collect web ⟨[], titles⟩ products = collectFrom (loadPage web) ⟨[], titles⟩ products)
    ∧ (∀ r c, apiImports client r c =
      importLine client.name (importPath (Path.join r.product "apis") client.path) ::
        (siblingImports r c).map fun i => importLine i.name i.path)
    ∧ (∀ r ∈ references, r.kind = "type" →
      ((∀ i ∈ siblingImports r (Reference.children (some r.id) references),
          Resolves (files client references) (apiPath r) i) ↔
        ∀ t ∈ (Reference.children (some r.id) references).references,
          ∃ u ∈ references, u.product = r.product ∧ u.kind = t.kind ∧ u.name = t.name))
    ∧ ((∀ product product' slug, DocumentsType fetch titles products product slug →
        DocumentsType fetch titles products product' slug → product = product') →
      ∀ r ∈ references, r.kind = "type" →
        ∀ i ∈ siblingImports r (Reference.children (some r.id) references),
          Resolves (files client references) (apiPath r) i) := by
  refine ⟨fun web => collect_eq_collectFrom web _ products, apiImports_eq client,
    fun r hr hkind => siblingImports_resolve_iff hplain hr hkind, ?_⟩
  intro hone r hr hkind
  apply (siblingImports_resolve_iff hplain hr hkind).2
  intro t ht
  obtain ⟨ht, hparent⟩ := Reference.of_mem_children ht
  have hproduct : t.product = r.product :=
    hone _ _ r.id (documentsType_of_parent hcollect ht hparent)
      (documentsType_of_collectFrom hcollect hr hkind)
  exact ⟨t, ht, hproduct, rfl, rfl⟩

/-! ### A type that two products document -/

/-- A page of a type. -/
def typePage (children : List DocNode) : DocNode :=
  ⟨"A Object", "a", "basic", "[block:parameters]\x7b\"data\": \x7b\x7d\x7d[/block]", "", none,
    children⟩

/-- The page of its errors. -/
def errorsPage : DocNode := ⟨"A Errors", "e", "basic", "", "", none, []⟩

/-- Two pages of one type, of which only one has a page of errors below it. -/
def sharedFetch : Fetch := fun url => .done [typePage (if url = "u" then [] else [errorsPage])]

/-- What tells references apart, without their contents. -/
def labels (r : Reference) : String × String × String × String × Option String :=
  (r.product, r.id, r.name, r.kind, r.parent)

theorem exists_fetched_of_labels [Interpreter] {fetch : Fetch} {job : String × String}
    {expected : List (String × String × String × String × Option String)}
    (h : (match (fetchPage fetch ⟨[], []⟩ job).result with
      | .ok references => references.map labels == expected
      | .error _ => false) = true) :
    ∃ references, (fetchPage fetch ⟨[], []⟩ job).result = .ok references
      ∧ references.map labels = expected := by
  split at h
  · exact ⟨_, ‹_›, eq_of_beq h⟩
  · exact absurd h (by simp)

theorem fetched_alone : ∃ references,
    (fetchPage sharedFetch ⟨[], []⟩ ("one", "u")).result = .ok references
    ∧ references.map labels = [("one", "a", "A", "type", none)] :=
  exists_fetched_of_labels (by decide +kernel)

theorem fetched_with_errors : ∃ references,
    (fetchPage sharedFetch ⟨[], []⟩ ("two", "v")).result = .ok references
    ∧ references.map labels =
      [("two", "a", "A", "type", none), ("two", "e", "AError", "enum", some "a")] :=
  exists_fetched_of_labels (by decide +kernel)

theorem isPlain_of_labels {references : List Reference}
    {expected : List (String × String × String × String × Option String)}
    (h : references.map labels = expected)
    (hexpected : ∀ l ∈ expected, IsSegment l.1.toList ∧ IsSegment l.2.2.1.toList) :
    ∀ r ∈ references, r.IsPlain := by
  intro r hr
  have hlabels : labels r ∈ expected := h ▸ List.mem_map_of_mem hr
  obtain ⟨hproduct, hname⟩ := hexpected (labels r) hlabels
  exact ⟨hproduct, hname⟩

/-- With both products, the first one's page of the type is kept with the second one's errors, and
its module imports them from where they are not. -/
theorem sharing_unresolved : ∃ references,
    (collectFrom sharedFetch ⟨[], []⟩ [⟨"one", ["u"]⟩, ⟨"two", ["v"]⟩]).result = .ok references
    ∧ (∀ r ∈ references, r.IsPlain) ∧ ∃ r ∈ references, r.kind = "type"
    ∧ ¬ ∀ i ∈ siblingImports r (Reference.children (some r.id) references),
      Resolves (files .usual references) (apiPath r) i := by
  obtain ⟨first, hfirst, hlabels⟩ := fetched_alone
  obtain ⟨second, hsecond, hlabels'⟩ := fetched_with_errors
  obtain ⟨r, rfl, hr⟩ := List.map_eq_singleton_iff.1 hlabels
  obtain ⟨r', rest, rfl, hr', hrest⟩ := List.map_eq_cons_iff.1 hlabels'
  obtain ⟨e, rfl, he⟩ := List.map_eq_singleton_iff.1 hrest
  have hplain : ∀ u ∈ [r, e], u.IsPlain :=
    isPlain_of_labels (by rw [List.map_cons, List.map_cons, List.map_nil, hr, he]) (by decide)
  simp only [labels, Prod.mk.injEq] at hr hr' he
  have hcollect : (collectFrom sharedFetch ⟨[], []⟩ [⟨"one", ["u"]⟩, ⟨"two", ["v"]⟩]).result =
      .ok [r, e] := by
    rw [collectFrom_of_pages (f := fun job => if job.1 = "one" then [r] else [r', e])]
    · simp [Product.jobs, Reference.unique, Reference.uniqueFrom, hr, hr', he]
    · simp [Product.jobs, hfirst, hsecond]
  have henum : e.isEnum = true := Reference.isEnum_iff_kind.2 he.2.2.2.1
  have howned : e ∈ (Reference.children (some r.id) [r, e]).references := by
    simp [Children.references, Reference.children, hr, he, henum]
  refine ⟨[r, e], hcollect, hplain, r, List.mem_cons_self, hr.2.2.2.1, ?_⟩
  intro hall
  obtain ⟨u, hu, hsame, hkinds, -⟩ :=
    (siblingImports_resolve_iff hplain List.mem_cons_self hr.2.2.2.1).1 hall e howned
  rcases List.mem_cons.1 hu with rfl | hu
  · rw [hr.2.2.2.1, he.2.2.2.1] at hkinds
    exact absurd hkinds (by decide)
  · rw [List.mem_singleton.1 hu, hr.1, he.1] at hsame
    exact absurd hsame (by decide)

/-- By itself the second product documents the type with its errors, and what the module of the type
imports is there. -/
theorem unshared_resolved : ∃ references,
    (collectFrom sharedFetch ⟨[], []⟩ [⟨"two", ["v"]⟩]).result = .ok references
    ∧ (∀ r ∈ references, r.IsPlain) ∧ (∃ r ∈ references, r.kind = "type")
    ∧ ∀ r ∈ references, r.kind = "type" →
      ∀ i ∈ siblingImports r (Reference.children (some r.id) references),
        Resolves (files .usual references) (apiPath r) i := by
  obtain ⟨references, hfetch, hlabels⟩ := fetched_with_errors
  have hplain : ∀ u ∈ references, u.IsPlain := isPlain_of_labels hlabels (by decide)
  obtain ⟨r, rest, rfl, hr, hrest⟩ := List.map_eq_cons_iff.1 hlabels
  obtain ⟨e, rfl, he⟩ := List.map_eq_singleton_iff.1 hrest
  simp only [labels, Prod.mk.injEq] at hr he
  have hcollect : (collectFrom sharedFetch ⟨[], []⟩ [⟨"two", ["v"]⟩]).result = .ok [r, e] := by
    rw [collectFrom_of_pages (f := fun _ => [r, e])]
    · simp [Product.jobs, Reference.unique, Reference.uniqueFrom, hr, he]
    · simp [Product.jobs, hfetch]
  refine ⟨[r, e], hcollect, hplain, ⟨r, List.mem_cons_self, hr.2.2.2.1⟩, ?_⟩
  apply (apiModule_imports_resolve sharedFetch [] _ [r, e] hcollect hplain .usual).2.2.2
  intro product product' slug hdocuments hdocuments'
  have hone {product : String} (h : DocumentsType sharedFetch [] [⟨"two", ["v"]⟩] product slug) :
      product = "two" := by
    obtain ⟨v, tree, ⟨job, hjob, rfl, -⟩, -⟩ := h
    rw [List.mem_singleton.1 hjob]
  rw [hone hdocuments, hone hdocuments']

end ClientScribe.Client
