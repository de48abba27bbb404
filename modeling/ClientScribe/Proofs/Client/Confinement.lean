import ClientScribe.Proofs.Client.OwnFile
import ClientScribe.Proofs.CommandLine.Work
import ClientScribe.Proofs.Disk.Inside
import ClientScribe.Proofs.Docs.Preorder

/-!
Where a client is written.  A file stands two folders below the output, at a name that is made from
the title of a page, and a name that has slashes is a path itself: it may be absolute, or lead up
and out of the output.
-/

namespace ClientScribe

open ClientScribe.Path (IsSegment)

/-! ### Paths and where they stay -/

namespace FilePath

theorem rootOf_eq_empty_iff {s : List Char} : rootOf s = "" ↔ s.head? ≠ some '/' := by
  cases s with
  | nil => simp [rootOf]
  | cons c s =>
    by_cases hc : c = '/'
    · subst hc
      rw [rootOf]
      split <;> simp_all
    · simp [rootOf, hc]

theorem isSegment_of_isSegment {s : List Char} (h : IsSegment s) : isSegment s = true := by
  simp [isSegment, h.nonempty, h.notHere]

/-- A path that starts with a folder. -/
theorem ofText_append_slash {a : String} (ha : IsSegment a.toList) (rest : List Char) :
    ofText (String.ofList (a.toList ++ '/' :: rest)) =
      ⟨"", a :: (ofText (String.ofList rest)).segments⟩ := by
  have hroot : rootOf (a.toList ++ '/' :: rest) = "" := by
    rw [rootOf_eq_empty_iff, List.head?_append_of_ne_nil a.toList ha.nonempty]
    exact Path.head?_ne_slash ha.noSlash
  rw [ofText, ofText, String.toList_ofList, String.toList_ofList, hroot,
    Path.splitOn_append_slash ha.noSlash, List.filter_cons, if_pos (isSegment_of_isSegment ha),
    List.map_cons, String.ofList_toList]

theorem neverLeaves_cons {a : String} (ha : IsSegment a.toList) (depth : Nat) (ss : List String) :
    neverLeaves depth (a :: ss) = neverLeaves (depth + 1) ss := by
  rw [neverLeaves, if_neg]
  rintro rfl
  exact ha.notUp rfl

/-- The name of a file is never left out of its path. -/
theorem segments_fileName_ne_nil (name : String) : (ofText (name ++ ".ts")).segments ≠ [] := by
  obtain ⟨piece, hpiece, hc⟩ : ∃ p ∈ Text.splitOn '/' (name ++ ".ts").toList, 't' ∈ p :=
    Text.exists_mem_splitOn (by simp) (by decide)
  have hsegment : isSegment piece = true := by
    rw [isSegment, Bool.and_eq_true, Bool.not_eq_true', List.isEmpty_eq_false_iff, bne_iff_ne]
    refine ⟨List.ne_nil_of_mem hc, ?_⟩
    rintro rfl
    exact absurd hc (by decide)
  exact List.ne_nil_of_mem (List.mem_map_of_mem (List.mem_filter.2 ⟨hpiece, hsegment⟩))

/-- A name without slashes stays in its folder. -/
theorem staysInside_of_noSlash {name : String} (h : '/' ∉ name.toList) (depth : Nat) :
    (ofText (name ++ ".ts")).StaysInside depth := by
  have hfile : IsSegment (name ++ ".ts").toList := by
    rw [String.toList_append]
    exact IsSegment.append h (by decide) (by decide)
  have hpath : ofText (name ++ ".ts") = ⟨"", [name ++ ".ts"]⟩ := by
    rw [ofText, rootOf_eq_empty_iff.2 (Path.head?_ne_slash hfile.noSlash),
      Path.splitOn_of_noSlash hfile.noSlash, List.filter_cons,
      if_pos (isSegment_of_isSegment hfile)]
    simp
  rw [hpath]
  refine ⟨rfl, List.cons_ne_nil _ _, ?_⟩
  rw [neverLeaves_cons hfile, neverLeaves]

/-- A file two folders deep stays inside exactly if its name, which may be a path, leads at most two
folders up. -/
theorem staysInside_join_iff {product directory : String} (hproduct : IsSegment product.toList)
    (hdirectory : IsSegment directory.toList) (name : String) :
    (ofText (Path.join (Path.join product directory) (name ++ ".ts"))).StaysInside 0 ↔
      (ofText (name ++ ".ts")).StaysInside 2 := by
  have hfolder : Path.joinChars product.toList directory.toList =
      product.toList ++ '/' :: directory.toList :=
    Path.joinChars_segment hproduct.nonempty (Path.getLast?_ne_slash hproduct.noSlash)
      hdirectory.noSlash
  rw [Path.join, Path.join, String.toList_ofList, hfolder]
  by_cases hhead : (name ++ ".ts").toList.head? = some '/'
  · -- the name is an absolute path, which joining leaves as it is
    rw [Path.joinChars, if_pos hhead, String.ofList_toList]
    have habsolute : (ofText (name ++ ".ts")).root ≠ "" := fun h =>
      rootOf_eq_empty_iff.1 h hhead
    exact iff_of_false (fun h => habsolute h.relative) fun h => habsolute h.relative
  · have hrelative : (ofText (name ++ ".ts")).root = "" := rootOf_eq_empty_iff.2 hhead
    rw [Path.joinChars_relative (by simp) (Path.getLast?_append_slash hdirectory) hhead,
      List.append_assoc, List.cons_append, ofText_append_slash hproduct,
      ofText_append_slash hdirectory, String.ofList_toList]
    have hdeeper (ss : List String) :
        neverLeaves 0 (product :: directory :: ss) = neverLeaves 2 ss := by
      rw [neverLeaves_cons hproduct, neverLeaves_cons hdirectory]
    constructor
    · intro h
      exact ⟨hrelative, segments_fileName_ne_nil name, (hdeeper _).symm.trans h.inside⟩
    · intro h
      exact ⟨rfl, List.cons_ne_nil _ _, (hdeeper _).trans h.inside⟩

end FilePath

/-! ### Names -/

namespace Title

theorem noSlash_oneWord {title : String} (h : '/' ∉ title.toList) (marker : String) :
    '/' ∉ (oneWord marker title).toList := by
  intro hmem
  rw [oneWord, String.toList_ofList] at hmem
  rcases Text.mem_of_mem_dropMarker (List.mem_filter.1 hmem).1 with htitle | hline
  · exact h htitle
  · exact absurd hline (by decide)

theorem noSlash_enumName {title : String} (h : '/' ∉ title.toList) :
    '/' ∉ (enumName title).toList := by
  rw [enumName, String.toList_append, List.mem_append, not_or]
  exact ⟨noSlash_oneWord h "Errors", by decide⟩

theorem mem_of_mem_capitalize {word : List Char} (h : '/' ∈ capitalize word) : '/' ∈ word := by
  cases word with
  | nil => exact h
  | cons c word =>
    rcases List.mem_append.1 h with hupper | hrest
    · rw [Text.eq_slash_of_mem_upperChar hupper]
      exact List.mem_cons_self
    · exact List.mem_cons_of_mem c hrest

theorem noSlash_requestName {title : String} (h : '/' ∉ title.toList) :
    '/' ∉ (requestName title).toList := by
  rw [requestName, String.toList_append, String.toList_ofList, List.mem_append, not_or]
  refine ⟨?_, by decide⟩
  intro hmem
  obtain ⟨word, hword, hslash⟩ := List.mem_flatMap.1 (List.mem_filter.1 hmem).1
  exact h (Text.mem_of_mem_words hword (mem_of_mem_capitalize hslash))

end Title

/-- A reference is named after its page. -/
theorem Place.Gives.noSlash_name [Interpreter] {titles : List String} {product : String}
    {parent : Option String} {p : Place} {r : Reference} (h : Gives titles product parent p r)
    (htitle : '/' ∉ (Title.clean titles p.page.title).toList) : '/' ∉ r.name.toList := by
  cases h with
  | type => exact Title.noSlash_oneWord htitle "Object"
  | errors => exact Title.noSlash_enumName htitle
  | request => exact Title.noSlash_requestName htitle

theorem Place.Gives.product_eq [Interpreter] {titles : List String} {product : String}
    {parent : Option String} {p : Place} {r : Reference} (h : Gives titles product parent p r) :
    r.product = product := by
  cases h <;> rfl

/-- Every reference of a tree is that of a place that counts. -/
theorem exists_place_of_extract [Interpreter] {titles : List String} {product : String}
    {parent : Option String} {n : DocNode} {rs : List Reference}
    (h : (n.extract ⟨[], titles⟩ product parent).result = .ok rs) {r : Reference} (hr : r ∈ rs) :
    ∃ p ∈ n.places [], p.counts titles parent = true ∧ p.Gives titles product parent r := by
  have hvisits : n.visits titles parent =
      ((n.places []).filter (Place.isVisited titles)).map (Place.visit titles parent) :=
    n.visits_eq_map [] (List.forall_mem_nil _)
  have hsafe := DocNode.exists_extract_iff.1 ⟨rs, h⟩
  rw [DocNode.extract_eq_flatMap h] at hr
  obtain ⟨v, hv, hr⟩ := List.mem_flatMap.1 hr
  have hread : ∃ found, (v.extract ⟨[], titles⟩ product).result = .ok found :=
    Visit.exists_extract_iff.2 (hsafe v hv)
  rw [hvisits] at hv
  obtain ⟨p, hp, rfl⟩ := List.mem_map.1 hv
  obtain ⟨hp, hvisited⟩ := List.mem_filter.1 hp
  rcases Place.given_visit hvisited hread with ⟨hcounts, u, hu, hgiven⟩ | ⟨-, hgiven⟩
  · rw [hgiven, List.mem_singleton] at hr
    exact ⟨p, hp, hcounts, hr ▸ hu⟩
  · rw [hgiven] at hr
    exact absurd hr List.not_mem_nil

namespace Client

open CommandLine (Session Work writeClient)

section

variable {client : HttpClient} {references : List Reference}

theorem referencePath_staysInside_iff {r : Reference} (h : IsSegment r.product.toList) :
    (FilePath.ofText (referencePath r)).StaysInside 0 ↔
      (FilePath.ofText (r.name ++ ".ts")).StaysInside 2 :=
  FilePath.staysInside_join_iff h (isSegment_kinds r.content) r.name

theorem apiPath_staysInside_iff {r : Reference} (h : IsSegment r.product.toList) :
    (FilePath.ofText (apiPath r)).StaysInside 0 ↔
      (FilePath.ofText (r.name ++ ".ts")).StaysInside 2 :=
  FilePath.staysInside_join_iff h (by decide) r.name

/-- Files stay below the output exactly if the names of all references stay in their products. -/
theorem files_stayInside_iff (hproducts : ∀ r ∈ references, IsSegment r.product.toList) :
    (∀ f ∈ files client references, (FilePath.ofText f.1).StaysInside 0) ↔
      ∀ r ∈ references, (FilePath.ofText (r.name ++ ".ts")).StaysInside 2 := by
  constructor
  · intro h r hr
    obtain ⟨content, hfile⟩ : ∃ content, (referencePath r, content) ∈ files client references :=
      exists_content (f := (referencePath r, declaration references r)) hr List.mem_cons_self
    exact (referencePath_staysInside_iff (hproducts r hr)).1 (h (referencePath r, content) hfile)
  · intro h f hf
    obtain ⟨r, hr, hf⟩ := exists_of_mem_files hf
    have hpath : f.1 ∈ pathsOf client references r := List.mem_map_of_mem hf
    rcases mem_pathsOf hpath with hown | ⟨-, hmodule⟩
    · rw [hown]
      exact (referencePath_staysInside_iff (hproducts r hr)).2 (h r hr)
    · rw [hmodule]
      exact (apiPath_staysInside_iff (hproducts r hr)).2 (h r hr)

/-- What is written for files below the output stays there. -/
theorem writeClient_changedInside [Device] {output : FilePath}
    (h : ∀ f ∈ files client references, (FilePath.ofText f.1).StaysInside 0) (s : Session) :
    Disk.ChangedInside output s.disk ((writeClient client references output).run s).2.disk := by
  have hkeeps : Work.Keeps (Disk.ChangedInside output s.disk)
      (writeClient client references output) :=
    (Work.keeps_saveFiles fun f hf _ hd => hd.saveText (h f hf)).bind fun _ => Work.keeps_say _
  exact hkeeps s (Disk.ChangedInside.refl output s.disk)

end

/-- The files of an extracted tree stay below the output exactly if no name is an absolute path or
leads more than two folders up, which is so where no title has slashes; and then nothing but what is
below the output, or a folder on the way there, is written. -/
theorem files_confined_iff [Interpreter] [Device] (client : HttpClient) (titles : List String)
    (product : String) (owner : Option String) (n : DocNode) (rs : List Reference)
    (hproduct : IsSegment product.toList)
    (h : (n.extract ⟨[], titles⟩ product owner).result = .ok rs) :
    ((∀ f ∈ files client rs, (FilePath.ofText f.1).StaysInside 0) ↔
      ∀ r ∈ rs, (FilePath.ofText (r.name ++ ".ts")).StaysInside 2)
    ∧ ((∀ p ∈ n.places [], p.counts titles owner = true →
        '/' ∉ (Title.clean titles p.page.title).toList) →
      ∀ f ∈ files client rs, (FilePath.ofText f.1).StaysInside 0)
    ∧ ((∀ f ∈ files client rs, (FilePath.ofText f.1).StaysInside 0) →
      ∀ (output : FilePath) (s : Session),
        Disk.ChangedInside output s.disk ((writeClient client rs output).run s).2.disk) := by
  have hproducts : ∀ r ∈ rs, IsSegment r.product.toList := by
    intro r hr
    obtain ⟨p, -, -, hgives⟩ := exists_place_of_extract h hr
    rwa [hgives.product_eq]
  refine ⟨files_stayInside_iff hproducts, ?_, fun hfiles _ s => writeClient_changedInside hfiles s⟩
  intro htitles
  apply (files_stayInside_iff hproducts).2
  intro r hr
  obtain ⟨p, hp, hcounts, hgives⟩ := exists_place_of_extract h hr
  exact FilePath.staysInside_of_noSlash (hgives.noSlash_name (htitles p hp hcounts)) 2

/-! ### Titles with slashes -/

/-- A page of a type by its title. -/
def titledPage (title : String) : DocNode :=
  ⟨title, "a", "basic", "[block:parameters]\x7b\x7d[/block]", "", none, []⟩

/-- The working folder is there and nothing else. -/
def workingDisk : Disk := ⟨["w"], [(["w"], .folder)]⟩

/-- What is in files once the client of a page is written. -/
def writtenTo [Device] (rs : List Reference) (output : String) : List Location :=
  ((writeClient .usual rs (FilePath.ofText output)).run ⟨workingDisk, [], []⟩).2.disk.files.map
    Prod.fst

/-- One title leads to a file beside the output and another one to a file in the root. -/
theorem titles_leave_output :
    (∃ rs, ((titledPage "../../../x Object").extract ⟨[], []⟩ "p" none).result = .ok rs
      ∧ (files .usual rs).map Prod.fst = ["p/types/../../../x.ts"]
      ∧ (¬ ∀ f ∈ files .usual rs, (FilePath.ofText f.1).StaysInside 0)
      ∧ writtenTo rs "out" = [["w", "x.ts"]])
    ∧ ∃ rs, ((titledPage "/x Object").extract ⟨[], []⟩ "p" none).result = .ok rs
      ∧ (files .usual rs).map Prod.fst = ["/x.ts"]
      ∧ (¬ ∀ f ∈ files .usual rs, (FilePath.ofText f.1).StaysInside 0)
      ∧ writtenTo rs "out" = [["x.ts"]] := by
  have hfound (title path : String) (place : Location)
      (h : (((titledPage title).extract ⟨[], []⟩ "p" none).result.toOption.any fun rs =>
        (files .usual rs).map Prod.fst == [path]
          && decide (¬ ∀ f ∈ files .usual rs, (FilePath.ofText f.1).StaysInside 0)
          && writtenTo rs "out" == [place]) = true) :
      ∃ rs, ((titledPage title).extract ⟨[], []⟩ "p" none).result = .ok rs
        ∧ (files .usual rs).map Prod.fst = [path]
        ∧ (¬ ∀ f ∈ files .usual rs, (FilePath.ofText f.1).StaysInside 0)
        ∧ writtenTo rs "out" = [place] := by
    obtain ⟨rs, hextract, hrest⟩ := Outcome.exists_of_any h
    rw [Bool.and_eq_true, Bool.and_eq_true, decide_eq_true_eq] at hrest
    exact ⟨rs, hextract, eq_of_beq hrest.1.1, hrest.1.2, eq_of_beq hrest.2⟩
  exact ⟨hfound _ _ _ (by decide +kernel), hfound _ _ _ (by decide +kernel)⟩

/-- A title whose slash leads one folder down keeps its file below the output. -/
theorem slash_down_confined : IsSegment "p".toList
    ∧ ∃ rs, ((titledPage "x/y Object").extract ⟨[], []⟩ "p" none).result = .ok rs
      ∧ (files .usual rs).map Prod.fst = ["p/types/x/y.ts"]
      ∧ (∀ f ∈ files .usual rs, (FilePath.ofText f.1).StaysInside 0)
      ∧ ∀ (output : FilePath) (s : Session),
        Disk.ChangedInside output s.disk ((writeClient .usual rs output).run s).2.disk := by
  have hfound : (((titledPage "x/y Object").extract ⟨[], []⟩ "p" none).result.toOption.any fun rs =>
      (files .usual rs).map Prod.fst == ["p/types/x/y.ts"]
        && decide (∀ r ∈ rs, (FilePath.ofText (r.name ++ ".ts")).StaysInside 2)) = true := by
    decide +kernel
  obtain ⟨rs, hextract, hrest⟩ := Outcome.exists_of_any hfound
  rw [Bool.and_eq_true, decide_eq_true_eq] at hrest
  have hproduct : IsSegment "p".toList := by decide
  obtain ⟨hiff, -, hwrites⟩ := files_confined_iff .usual [] "p" none _ rs hproduct hextract
  have hfiles := hiff.2 hrest.2
  exact ⟨hproduct, rs, hextract, eq_of_beq hrest.1, hfiles, hwrites hfiles⟩

end Client

end ClientScribe
