import ClientScribe.Proofs.Client.Files
import ClientScribe.Proofs.Docs.Ownership
import Mathlib.Data.List.Nodup

/-!
Which references have a file of their own.  A file is named after its product, the kind and the name
of its reference, and not after the id: references of one kind that share product and name share
their file, and only one of them stays.
-/

namespace ClientScribe

/-- A reference whose product and name add no directories to its path. -/
structure Reference.HasNoSlash (r : Reference) : Prop where
  product : '/' ∉ r.product.toList
  name : '/' ∉ r.name.toList

namespace Client

open ClientScribe.Path (IsSegment)

theorem toList_join_fileName (product directory name : String) :
    (Path.join (Path.join product directory) (name ++ ".ts")).toList =
      Path.joinChars (Path.joinChars product.toList directory.toList)
        (name.toList ++ ".ts".toList) := by
  simp only [Path.join, String.toList_ofList, String.toList_append]

/-- Files of references without slashes differ in product, directory or name. -/
theorem join_fileName_inj {r s : Reference} (hr : r.HasNoSlash) (hs : s.HasNoSlash)
    {d d' : String} (hd : IsSegment d.toList) (hd' : IsSegment d'.toList)
    (h : Path.join (Path.join r.product d) (r.name ++ ".ts") =
      Path.join (Path.join s.product d') (s.name ++ ".ts")) :
    r.product = s.product ∧ d = d' ∧ r.name = s.name := by
  have hchars := congrArg String.toList h
  rw [toList_join_fileName, toList_join_fileName] at hchars
  obtain ⟨hproduct, hdirectory, hname⟩ := Path.joinChars_joinChars_inj hr.product hd
    (noSlash_fileName hr.name) hs.product hd' (noSlash_fileName hs.name) hchars
  exact ⟨String.toList_inj.1 hproduct, String.toList_inj.1 hdirectory,
    String.toList_inj.1 (List.append_cancel_right hname)⟩

/-- What the path of a reference is made of. -/
def placement (r : Reference) : String × String × String := (r.product, r.kind, r.name)

theorem referencePath_eq_iff {r s : Reference} (hr : r.HasNoSlash) (hs : s.HasNoSlash) :
    referencePath r = referencePath s ↔ placement r = placement s := by
  constructor
  · intro h
    obtain ⟨hproduct, hkind, hname⟩ := join_fileName_inj hr hs (isSegment_kinds r.content)
      (isSegment_kinds s.content) h
    have hkind : r.kind = s.kind := (String.append_left_inj "s").1 hkind
    rw [placement, placement, hproduct, hkind, hname]
  · intro h
    simp only [placement, Prod.mk.injEq] at h
    rw [referencePath, referencePath, h.1, h.2.1, h.2.2]

theorem apiPath_ne_referencePath {r s : Reference} (hr : r.HasNoSlash) (hs : s.HasNoSlash) :
    apiPath r ≠ referencePath s := by
  intro h
  have hapis : IsSegment "apis".toList := by decide
  have hother (c : Content) : "apis" ≠ c.kind ++ "s" := by
    cases c <;> rw [Content.kind] <;> decide
  obtain ⟨-, hdirectory, -⟩ := join_fileName_inj hr hs hapis (isSegment_kinds s.content) h
  exact hother s.content hdirectory

/-- Two types with one API module have one file too. -/
theorem placement_eq_of_apiPath {r s : Reference} (hr : r.HasNoSlash) (hs : s.HasNoSlash)
    (hkind : r.kind = s.kind) (h : apiPath r = apiPath s) : placement r = placement s := by
  have hapis : IsSegment "apis".toList := by decide
  obtain ⟨hproduct, -, hname⟩ := join_fileName_inj hr hs hapis hapis h
  rw [placement, placement, hproduct, hkind, hname]

/-! ### Written paths -/

/-- The paths that a reference writes to. -/
def pathsOf (client : HttpClient) (references : List Reference) (r : Reference) : List String :=
  (filesOf client references r).map Prod.fst

/-- Besides its own file a type may have an API module. -/
theorem pathsOf_cases (client : HttpClient) (references : List Reference) (r : Reference) :
    pathsOf client references r = [referencePath r]
    ∨ r.kind = "type" ∧ pathsOf client references r = [referencePath r, apiPath r] := by
  rw [pathsOf, filesOf, Reference.kind]
  cases r.content with
  | type fields =>
    dsimp only
    split
    · exact .inl rfl
    · exact .inr ⟨rfl, rfl⟩
  | enum values => exact .inl rfl
  | request request => exact .inl rfl

section

variable {client : HttpClient} {references : List Reference}

theorem mem_pathsOf {r : Reference} {path : String} (h : path ∈ pathsOf client references r) :
    path = referencePath r ∨ r.kind = "type" ∧ path = apiPath r := by
  rcases pathsOf_cases client references r with hpaths | ⟨hkind, hpaths⟩
  · rw [hpaths, List.mem_singleton] at h
    exact .inl h
  · rw [hpaths, List.mem_cons, List.mem_singleton] at h
    exact h.imp_right fun h => ⟨hkind, h⟩

theorem referencePath_mem_pathsOf (r : Reference) :
    referencePath r ∈ pathsOf client references r :=
  List.mem_map_of_mem (f := Prod.fst) (a := (referencePath r, declaration references r))
    List.mem_cons_self

theorem nodup_pathsOf {r : Reference} (hr : r.HasNoSlash) :
    (pathsOf client references r).Nodup := by
  rcases pathsOf_cases client references r with hpaths | ⟨-, hpaths⟩
  · rw [hpaths]
    exact List.nodup_singleton _
  · rw [hpaths]
    simp [(apiPath_ne_referencePath hr hr).symm]

/-- Two references write to a common path exactly if they are placed alike. -/
theorem disjoint_pathsOf_iff {r s : Reference} (hr : r.HasNoSlash) (hs : s.HasNoSlash) :
    List.Disjoint (pathsOf client references r) (pathsOf client references s) ↔
      placement r ≠ placement s := by
  constructor
  · intro hdisjoint hsame
    apply hdisjoint (referencePath_mem_pathsOf r)
    rw [(referencePath_eq_iff hr hs).2 hsame]
    exact referencePath_mem_pathsOf s
  · intro hdiffer path hr' hs'
    rcases mem_pathsOf hr' with rfl | ⟨hkind, rfl⟩ <;> rcases mem_pathsOf hs' with h | ⟨hkind', h⟩
    · exact hdiffer ((referencePath_eq_iff hr hs).1 h)
    · exact apiPath_ne_referencePath hs hr h.symm
    · exact apiPath_ne_referencePath hr hs h
    · exact hdiffer (placement_eq_of_apiPath hr hs (hkind.trans hkind'.symm) h)

theorem nodup_paths_iff (h : ∀ r ∈ references, r.HasNoSlash) :
    ((references.flatMap (filesOf client references)).map Prod.fst).Nodup ↔
      (references.map placement).Nodup := by
  have hplaced : (references.map placement).Nodup ↔
      references.Pairwise fun r s => placement r ≠ placement s := List.pairwise_map
  rw [List.map_flatMap, hplaced]
  change (references.flatMap (pathsOf client references)).Nodup ↔ _
  rw [List.nodup_flatMap]
  constructor
  · rintro ⟨-, hpairs⟩
    exact hpairs.imp_of_mem fun hr hs hdisjoint =>
      (disjoint_pathsOf_iff (h _ hr) (h _ hs)).1 hdisjoint
  · intro hpairs
    refine ⟨fun r hr => nodup_pathsOf (h r hr), ?_⟩
    exact hpairs.imp_of_mem fun hr hs hdiffer =>
      (disjoint_pathsOf_iff (h _ hr) (h _ hs)).2 hdiffer

end

/-- Nothing that a reference gives is lost exactly if no path is written twice.  Where products and
names have no slashes, that is if no two references share product, kind and name. -/
theorem files_keep_references_iff (client : HttpClient) (references : List Reference) :
    (files client references = references.flatMap (filesOf client references) ↔
      ((references.flatMap (filesOf client references)).map Prod.fst).Nodup)
    ∧ ((∀ r ∈ references, r.HasNoSlash) →
      (files client references = references.flatMap (filesOf client references) ↔
        (references.map placement).Nodup)) := by
  refine ⟨files_eq_flatMap_iff, fun h => ?_⟩
  rw [files_eq_flatMap_iff, nodup_paths_iff h]

/-! ### One name for two titles -/

/-- A page of a type with one field, by its title, its slug and the name of the field. -/
def fieldPage (title slug field : String) : DocNode :=
  ⟨title, slug, "basic",
    "[block:parameters]\x7b\"data\": \x7b\"0-0\": \"" ++ field ++ "\"\x7d\x7d[/block]", "", none,
    []⟩

/-- Two pages whose titles differ in a blank only. -/
def spelledFetch : Fetch := fun _ =>
  .done [fieldPage "A Object" "a" "x", fieldPage "AObject" "b" "y"]

/-- Both types are collected, and only the second one has a file. -/
theorem spelled_share_file : ∃ references,
    (collectFrom spelledFetch ⟨[], []⟩ [⟨"p", ["u"]⟩]).result = .ok references
    ∧ references.map Reference.id = ["a", "b"]
    ∧ files .usual references =
      [("p/types/A.ts", "export interface A \x7b\n  y: unknown;\n\x7d\n")] := by
  have hfound : ((collectFrom spelledFetch ⟨[], []⟩ [⟨"p", ["u"]⟩]).result.toOption.any
      fun references => references.map Reference.id == ["a", "b"]
        && files .usual references ==
          [("p/types/A.ts", "export interface A \x7b\n  y: unknown;\n\x7d\n")]) = true := by
    decide +kernel
  cases hresult : (collectFrom spelledFetch ⟨[], []⟩ [⟨"p", ["u"]⟩]).result with
  | error fault =>
    rw [hresult] at hfound
    cases hfound
  | ok references =>
    rw [hresult] at hfound
    obtain ⟨hids, hfiles⟩ := Bool.and_eq_true_iff.1 hfound
    exact ⟨references, rfl, eq_of_beq hids, eq_of_beq hfiles⟩

/-- Two types of different names. -/
def distinctTypes : List Reference :=
  [⟨"p", none, "a", "A", "", .type []⟩, ⟨"p", none, "b", "B", "", .type []⟩]

theorem distinctTypes_kept :
    (∀ r ∈ distinctTypes, r.HasNoSlash)
    ∧ files .usual distinctTypes = distinctTypes.flatMap (filesOf .usual distinctTypes) := by
  have hnoSlash : ∀ r ∈ distinctTypes, r.HasNoSlash := by
    intro r hr
    simp only [distinctTypes, List.mem_cons, List.not_mem_nil, or_false] at hr
    rcases hr with rfl | rfl
    · exact ⟨by decide, by decide⟩
    · exact ⟨by decide, by decide⟩
  exact ⟨hnoSlash, ((files_keep_references_iff .usual distinctTypes).2 hnoSlash).2 (by decide)⟩

end Client

end ClientScribe
