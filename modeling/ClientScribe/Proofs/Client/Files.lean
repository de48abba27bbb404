import ClientScribe.Client.Files
import ClientScribe.Proofs.Path

/-!
Where files are.  References whose products and names are plain segments have files of their own
unless they share product, kind and name, and their files declare them.
-/

namespace ClientScribe.Client

/-! ### Writing -/

theorem Files.mem_of_mem_write {path content : String} {fs : Files} {f : String × String}
    (h : f ∈ Files.write path content fs) : f = (path, content) ∨ f ∈ fs := by
  induction fs with
  | nil => exact .inl (List.mem_singleton.1 h)
  | cons g fs ih =>
    obtain ⟨p, c⟩ := g
    rw [Files.write] at h
    split at h
    · rename_i hp
      rcases List.mem_cons.1 h with rfl | h
      · exact .inl (by rw [hp])
      · exact .inr (List.mem_cons_of_mem _ h)
    · rcases List.mem_cons.1 h with rfl | h
      · exact .inr List.mem_cons_self
      · exact (ih h).imp_right (List.mem_cons_of_mem _)

theorem Files.path_mem_write {path content p : String} {fs : Files} :
    p ∈ (Files.write path content fs).map Prod.fst ↔ p = path ∨ p ∈ fs.map Prod.fst := by
  induction fs with
  | nil => simp [Files.write]
  | cons g fs ih =>
    obtain ⟨q, c⟩ := g
    rw [Files.write]
    split
    · rename_i hq
      simp [hq]
    · rw [List.map_cons, List.mem_cons, ih, List.map_cons, List.mem_cons, or_left_comm]

theorem Files.nodup_paths_write {path content : String} {fs : Files}
    (h : (fs.map Prod.fst).Nodup) : ((Files.write path content fs).map Prod.fst).Nodup := by
  induction fs with
  | nil => simp [Files.write]
  | cons f fs ih =>
    obtain ⟨p, c⟩ := f
    rw [List.map_cons, List.nodup_cons] at h
    rw [Files.write]
    split
    · rw [List.map_cons, List.nodup_cons]
      exact h
    · rename_i hp
      rw [List.map_cons, List.nodup_cons, Files.path_mem_write, not_or]
      exact ⟨⟨hp, h.1⟩, ih h.2⟩

/-- A new path goes to the end. -/
theorem Files.write_of_not_mem {path content : String} {fs : Files}
    (h : path ∉ fs.map Prod.fst) : Files.write path content fs = fs ++ [(path, content)] := by
  induction fs with
  | nil => rfl
  | cons f fs ih =>
    obtain ⟨p, c⟩ := f
    rw [List.map_cons, List.mem_cons, not_or] at h
    rw [Files.write, if_neg (Ne.symm h.1), ih h.2, List.cons_append]

/-- After many writes a file is an old one or a written one. -/
theorem Files.mem_of_mem_foldl_write {written : List (String × String)} {fs : Files}
    {f : String × String}
    (h : f ∈ written.foldl (fun fs f => Files.write f.1 f.2 fs) fs) : f ∈ fs ∨ f ∈ written := by
  induction written generalizing fs with
  | nil => exact .inl h
  | cons g written ih =>
    rw [List.foldl_cons] at h
    rcases ih h with h | h
    · rcases Files.mem_of_mem_write h with rfl | h
      · exact .inr List.mem_cons_self
      · exact .inl h
    · exact .inr (List.mem_cons_of_mem g h)

theorem Files.path_mem_foldl_write {written : List (String × String)} {fs : Files} {p : String} :
    p ∈ (written.foldl (fun fs f => Files.write f.1 f.2 fs) fs).map Prod.fst ↔
      p ∈ fs.map Prod.fst ∨ p ∈ written.map Prod.fst := by
  induction written generalizing fs with
  | nil => simp
  | cons g written ih =>
    rw [List.foldl_cons, ih, Files.path_mem_write, List.map_cons, List.mem_cons, or_assoc,
      or_left_comm]

theorem Files.nodup_paths_foldl_write {written : List (String × String)} {fs : Files}
    (h : (fs.map Prod.fst).Nodup) :
    ((written.foldl (fun fs f => Files.write f.1 f.2 fs) fs).map Prod.fst).Nodup := by
  induction written generalizing fs with
  | nil => exact h
  | cons f written ih => exact ih (Files.nodup_paths_write h)

/-- Where no path is written twice, the files are what was written, in order. -/
theorem Files.foldl_write_of_nodup {written : List (String × String)} {fs : Files}
    (h : ((fs ++ written).map Prod.fst).Nodup) :
    written.foldl (fun fs f => Files.write f.1 f.2 fs) fs = fs ++ written := by
  induction written generalizing fs with
  | nil => rw [List.append_nil, List.foldl_nil]
  | cons f written ih =>
    have hnew : f.1 ∉ fs.map Prod.fst := by
      rw [List.map_append, List.nodup_append] at h
      intro hmem
      exact h.2.2 f.1 hmem f.1 (by simp) rfl
    rw [List.foldl_cons, Files.write_of_not_mem hnew, ih (by simpa using h), List.append_assoc,
      List.singleton_append]

section

variable {client : HttpClient} {references : List Reference}

/-- Every write stays exactly if no path is written twice. -/
theorem files_eq_flatMap_iff :
    files client references = references.flatMap (filesOf client references) ↔
      ((references.flatMap (filesOf client references)).map Prod.fst).Nodup := by
  constructor
  · intro h
    rw [← h]
    exact Files.nodup_paths_foldl_write List.nodup_nil
  · intro h
    rw [files, Files.foldl_write_of_nodup h, List.nil_append]

/-- A file of a client is one that some reference gives. -/
theorem exists_of_mem_files {f : String × String} (h : f ∈ files client references) :
    ∃ r ∈ references, f ∈ filesOf client references r := by
  rcases Files.mem_of_mem_foldl_write h with h | h
  · exact absurd h List.not_mem_nil
  · exact List.mem_flatMap.1 h

/-- Every path that a reference writes to is the path of a file. -/
theorem exists_content {r : Reference} (hr : r ∈ references) {f : String × String}
    (hf : f ∈ filesOf client references r) :
    ∃ content, (f.1, content) ∈ files client references := by
  have hwritten : f.1 ∈ (references.flatMap (filesOf client references)).map Prod.fst :=
    List.mem_map_of_mem (List.mem_flatMap.2 ⟨r, hr, hf⟩)
  obtain ⟨g, hg, hpath⟩ := List.mem_map.1 (Files.path_mem_foldl_write.2 (.inr hwritten))
  exact ⟨g.2, hpath ▸ hg⟩

end

/-! ### Paths of plain references -/

end Client

/-- A reference whose product and name are plain segments of a path. -/
structure Reference.IsPlain (r : Reference) : Prop where
  product : Path.IsSegment r.product.toList
  name : Path.IsSegment r.name.toList

instance (r : Reference) : Decidable r.IsPlain :=
  decidable_of_iff (Path.IsSegment r.product.toList ∧ Path.IsSegment r.name.toList)
    ⟨fun ⟨h₁, h₂⟩ => ⟨h₁, h₂⟩, fun ⟨h₁, h₂⟩ => ⟨h₁, h₂⟩⟩

namespace Client

open ClientScribe.Path (IsSegment threeSegments)

/-- The path of a file in a directory of a product. -/
def filePath (product directory name : String) : String :=
  String.ofList (threeSegments product.toList directory.toList (name.toList ++ ".ts".toList))

theorem noSlash_fileName {name : String} (h : '/' ∉ name.toList) :
    '/' ∉ name.toList ++ ".ts".toList := by
  intro hmem
  rcases List.mem_append.1 hmem with hmem | hmem
  · exact h hmem
  · exact absurd hmem (by decide)

theorem isSegment_kinds (c : Content) : IsSegment (c.kind ++ "s").toList := by
  cases c <;> rw [Content.kind] <;> decide

theorem join_fileName {product directory name : String} (hproduct : IsSegment product.toList)
    (hdirectory : IsSegment directory.toList) (hname : IsSegment name.toList) :
    Path.join (Path.join product directory) (name ++ ".ts") = filePath product directory name := by
  have hfile : '/' ∉ (name ++ ".ts").toList := by
    rw [String.toList_append]
    exact noSlash_fileName hname.noSlash
  rw [Path.join_join hproduct hdirectory hfile, String.toList_append, filePath]

theorem referencePath_eq {r : Reference} (h : r.IsPlain) :
    referencePath r = filePath r.product (r.kind ++ "s") r.name :=
  join_fileName h.product (isSegment_kinds r.content) h.name

theorem apiPath_eq {r : Reference} (h : r.IsPlain) : apiPath r = filePath r.product "apis" r.name :=
  join_fileName h.product (by decide) h.name

theorem filePath_inj {p d n p' d' n' : String} (hp : '/' ∉ p.toList) (hd : '/' ∉ d.toList)
    (hn : '/' ∉ n.toList) (hp' : '/' ∉ p'.toList) (hd' : '/' ∉ d'.toList) (hn' : '/' ∉ n'.toList)
    (h : filePath p d n = filePath p' d' n') : p = p' ∧ d = d' ∧ n = n' := by
  obtain ⟨hpp, hdd, hnn⟩ := Path.threeSegments_inj hp hd (noSlash_fileName hn) hp' hd'
    (noSlash_fileName hn') (String.ofList_injective h)
  exact ⟨String.toList_inj.1 hpp, String.toList_inj.1 hdd,
    String.toList_inj.1 (List.append_cancel_right hnn)⟩

/-- An API module stands in a directory of its own. -/
theorem filePath_ne_apiPath {r : Reference} (hr : r.IsPlain) (c : Content) {product name : String}
    (hproduct : '/' ∉ product.toList) (hname : '/' ∉ name.toList) :
    filePath product (c.kind ++ "s") name ≠ apiPath r := by
  intro hpath
  rw [apiPath_eq hr] at hpath
  obtain ⟨-, hdirectory, -⟩ := filePath_inj hproduct (isSegment_kinds c).noSlash hname
    hr.product.noSlash (by decide) hr.name.noSlash hpath
  revert hdirectory
  cases c <;> rw [Content.kind] <;> decide

/-- The file at a path in a directory for references is the file of a reference with that product,
kind and name. -/
theorem exists_reference_of_mem_files {client : HttpClient} {references : List Reference}
    (hplain : ∀ r ∈ references, r.IsPlain) {product name content : String} {c : Content}
    (hproduct : '/' ∉ product.toList) (hname : '/' ∉ name.toList)
    (h : (filePath product (c.kind ++ "s") name, content) ∈ files client references) :
    ∃ r ∈ references, r.product = product ∧ r.kind = c.kind ∧ r.name = name
      ∧ content = declaration references r := by
  obtain ⟨r, hr, hfile⟩ := exists_of_mem_files h
  have hr' := hplain r hr
  rw [filesOf] at hfile
  rcases List.mem_cons.1 hfile with heq | hmodule
  · simp only [Prod.mk.injEq, referencePath_eq hr'] at heq
    obtain ⟨hpath, hcontent⟩ := heq
    obtain ⟨hp, hd, hn⟩ := filePath_inj hproduct (isSegment_kinds c).noSlash hname
      hr'.product.noSlash (isSegment_kinds r.content).noSlash hr'.name.noSlash hpath
    exact ⟨r, hr, hp.symm, (String.append_left_inj "s").1 hd.symm, hn.symm, hcontent⟩
  · split at hmodule
    · dsimp only at hmodule
      split at hmodule
      · exact absurd hmodule List.not_mem_nil
      · have hpath := (Prod.mk.inj (List.mem_singleton.1 hmodule)).1
        exact absurd hpath (filePath_ne_apiPath hr' c hproduct hname)
    · exact absurd hmodule List.not_mem_nil

theorem exists_file_of_mem {client : HttpClient} {references : List Reference}
    (hplain : ∀ r ∈ references, r.IsPlain) {r : Reference} (hr : r ∈ references) :
    ∃ content, (filePath r.product (r.kind ++ "s") r.name, content) ∈ files client references := by
  rw [← referencePath_eq (hplain r hr)]
  exact exists_content (f := (referencePath r, declaration references r)) hr List.mem_cons_self

/-! ### Declared names -/

/-- A file exports an interface or an enumeration of that name. -/
def Declares (content name : String) : Prop :=
  ∃ before behind, content = before ++ "export interface " ++ name ++ " \x7b\n" ++ behind
    ∨ content = before ++ "export enum " ++ name ++ " \x7b\n" ++ behind

theorem declares_interfaceText (references : List Reference) (r : Reference)
    (fields : List TypeField) : Declares (interfaceText references r fields) r.name := by
  refine ⟨importBlock (importLines references (referencePath r) fields),
    String.join ((TypeField.merge fields).map (memberText references)) ++ "\x7d\n", .inl ?_⟩
  simp only [interfaceText, String.append_assoc]

/-- The file of a reference declares it. -/
theorem declares_declaration (references : List Reference) (r : Reference) :
    Declares (declaration references r) r.name := by
  rw [declaration]
  split
  · exact declares_interfaceText references r _
  · rename_i values _
    refine ⟨"", String.join (values.map valueText) ++ "\x7d\n", .inr ?_⟩
    unfold enumText
    simp only [String.empty_append, String.append_assoc]
  · exact declares_interfaceText references r _

end Client

end ClientScribe
