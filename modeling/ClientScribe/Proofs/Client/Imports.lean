import ClientScribe.Proofs.Client.ImportPath
import ClientScribe.Proofs.Client.OwnFile
import ClientScribe.Proofs.Reference.Tree

/-!
What the file of an interface imports.  Each import leads to a file that is written and that
declares what is imported, also where ids repeat and where a path is written more than once.
-/

namespace ClientScribe.Client

/-! ### References of fields -/

/-- An id stands in a type, perhaps below arrays. -/
inductive Mentions (id : String) : TypeNode → Prop
  | here {n : TypeNode} : n.id = some id → id ≠ "" → Mentions id n
  | element {n t : TypeNode} {ts : List TypeNode} :
    n.tag = "array" → n.arrayTypes = some ts → t ∈ ts → Mentions id t → Mentions id n

/-- Some field refers to a reference by its id. -/
def RefersTo (references : List Reference) (fields : List TypeField) (t : Reference) : Prop :=
  ∃ f ∈ fields, ∃ n ∈ f.types, ∃ id, Mentions id n ∧ Reference.find? id references = some t

theorem mem_nodeIds {n : TypeNode} {id : String} : id ∈ nodeIds n ↔ Mentions id n := by
  apply TypeNode.induction (P := fun n => id ∈ nodeIds n ↔ Mentions id n) (Q := fun _ => True)
  · intro n _ htypes
    obtain ⟨tag, startsWith, possibleValues, fields, own, arrayTypes⟩ := n
    have hown : id ∈ (own.filter (!·.isEmpty)).toList ↔ own = some id ∧ id ≠ "" := by
      rw [Option.mem_toList, Option.filter_eq_some_iff]
      simp
    rw [nodeIds, List.mem_append, hown]
    constructor
    · rintro (⟨rfl, hne⟩ | hid)
      · exact .here rfl hne
      · split at hid
        · rename_i htag
          obtain _ | ts := arrayTypes
          · exact absurd hid List.not_mem_nil
          · obtain ⟨t, ht, hid⟩ := mem_typeIds.1 hid
            exact .element htag rfl ht ((htypes ts rfl t ht).1 hid)
        · exact absurd hid List.not_mem_nil
    · intro hmentions
      cases hmentions with
      | here hid hne => exact .inl ⟨hid, hne⟩
      | @element _ t ts htag harray ht hmentions =>
        have harray : arrayTypes = some ts := harray
        rw [if_pos htag, harray]
        exact .inr (mem_typeIds.2 ⟨t, ht, (htypes ts harray t ht).2 hmentions⟩)
  · intro f _
    trivial

section

variable {client : HttpClient} {references : List Reference} {r t : Reference}
  {fields : List TypeField}

theorem refersTo_iff : RefersTo references fields t ↔
    ∃ f ∈ fields, ∃ id ∈ typeIds f.types, Reference.find? id references = some t := by
  constructor
  · rintro ⟨f, hf, n, hn, id, hmentions, hfind⟩
    exact ⟨f, hf, id, mem_typeIds.2 ⟨n, hn, mem_nodeIds.2 hmentions⟩, hfind⟩
  · rintro ⟨f, hf, id, hid, hfind⟩
    obtain ⟨n, hn, hid⟩ := mem_typeIds.1 hid
    exact ⟨f, hf, n, hn, id, mem_nodeIds.1 hid, hfind⟩

theorem RefersTo.mem (h : RefersTo references fields t) : t ∈ references := by
  obtain ⟨_, _, _, _, _, _, hfind⟩ := h
  exact List.mem_of_find?_eq_some hfind

/-! ### Import lines -/

def Import.line (i : Import) : String := importLine i.name i.path

/-- The import of `t` in the file of `r`. -/
def importFrom (r t : Reference) : Import :=
  ⟨t.name, importPath (Path.directory (referencePath r)) (referencePath t)⟩

theorem mem_importsFor {i : Import} : i ∈ importsFor references (referencePath r) fields ↔
    ∃ t, RefersTo references fields t ∧ referencePath t ≠ referencePath r ∧ i = importFrom r t := by
  have himport (t : Reference) : importFor? (referencePath r) t = some i ↔
      referencePath t ≠ referencePath r ∧ i = importFrom r t := by
    rw [importFor?, Option.ite_none_left_eq_some, Option.some_inj, importFrom, eq_comm (a := i)]
  simp only [refersTo_iff, importsFor, List.mem_filterMap, List.mem_flatMap,
    Option.bind_eq_some_iff, himport]
  constructor
  · rintro ⟨id, ⟨f, hf, hid⟩, t, hfind, hpath, rfl⟩
    exact ⟨t, ⟨f, hf, id, hid, hfind⟩, hpath, rfl⟩
  · rintro ⟨t, ⟨f, hf, id, hid, hfind⟩, hpath, rfl⟩
    exact ⟨id, ⟨f, hf, hid⟩, t, hfind, hpath, rfl⟩

/-- No reference behind this one has the same file. -/
def WrittenLast (references : List Reference) (r : Reference) : Prop :=
  ∃ before behind, references = before ++ r :: behind
    ∧ ∀ u ∈ behind, referencePath u ≠ referencePath r

/-- What stays of some files was not written over. -/
theorem Files.mem_write_cases {path content : String} {fs : Files} {f : String × String}
    (hnodup : (fs.map Prod.fst).Nodup) (h : f ∈ Files.write path content fs) :
    f = (path, content) ∨ f ∈ fs ∧ f.1 ≠ path := by
  induction fs with
  | nil => exact .inl (List.mem_singleton.1 h)
  | cons g fs ih =>
    obtain ⟨p, c⟩ := g
    rw [List.map_cons, List.nodup_cons] at hnodup
    rw [Files.write] at h
    by_cases hp : p = path
    · rw [if_pos hp] at h
      rcases List.mem_cons.1 h with rfl | h
      · exact .inl (by rw [hp])
      · have hmem : f.1 ∈ fs.map Prod.fst := List.mem_map.2 ⟨f, h, rfl⟩
        refine .inr ⟨List.mem_cons_of_mem _ h, fun hpath => hnodup.1 ?_⟩
        rwa [hp, ← hpath]
    · rw [if_neg hp] at h
      rcases List.mem_cons.1 h with rfl | h
      · exact .inr ⟨List.mem_cons_self, hp⟩
      · exact (ih hnodup.2 h).imp_right (And.imp_left (List.mem_cons_of_mem _))

theorem Files.mem_foldl_write_cases {written : List (String × String)} {fs : Files}
    {f : String × String} (hnodup : (fs.map Prod.fst).Nodup)
    (h : f ∈ written.foldl (fun fs f => Files.write f.1 f.2 fs) fs) :
    f ∈ written ∨ f ∈ fs ∧ f.1 ∉ written.map Prod.fst := by
  induction written generalizing fs with
  | nil => exact .inr ⟨h, List.not_mem_nil⟩
  | cons g written ih =>
    rcases ih (Files.nodup_paths_write hnodup) h with h | ⟨h, hlater⟩
    · exact .inl (List.mem_cons_of_mem g h)
    · rcases Files.mem_write_cases hnodup h with rfl | ⟨h, hother⟩
      · exact .inl List.mem_cons_self
      · exact .inr ⟨h, List.not_mem_cons_of_ne_of_not_mem hother hlater⟩

/-- A file comes from the last of those that write to its path. -/
theorem Files.exists_last_of_mem_foldl_write {rs : List Reference} {written : Reference → Files}
    {fs : Files} {f : String × String} (hnodup : (fs.map Prod.fst).Nodup)
    (h : f ∈ (rs.flatMap written).foldl (fun fs f => Files.write f.1 f.2 fs) fs) :
    (f ∈ fs ∧ ∀ u ∈ rs, f.1 ∉ (written u).map Prod.fst)
    ∨ ∃ before r behind, rs = before ++ r :: behind ∧ f ∈ written r
      ∧ ∀ u ∈ behind, f.1 ∉ (written u).map Prod.fst := by
  induction rs generalizing fs with
  | nil => exact .inl ⟨h, List.forall_mem_nil _⟩
  | cons r rs ih =>
    rw [List.flatMap_cons, List.foldl_append] at h
    rcases ih (Files.nodup_paths_foldl_write hnodup) h with
      ⟨h, hlater⟩ | ⟨before, s, behind, rfl, hs, hlater⟩
    · rcases Files.mem_foldl_write_cases hnodup h with h | ⟨h, hother⟩
      · exact .inr ⟨[], r, rs, rfl, h, hlater⟩
      · exact .inl ⟨h, List.forall_mem_cons.2 ⟨hother, hlater⟩⟩
    · exact .inr ⟨r :: before, s, behind, rfl, hs, hlater⟩

/-- A file is an API module or the declaration of the last reference with its path. -/
theorem mem_files_cases {f : String × String} (h : f ∈ files client references) :
    (∃ r ∈ references,
      f = (apiPath r, apiText client r (Reference.children (some r.id) references)))
    ∨ ∃ r, WrittenLast references r ∧ f = (referencePath r, declaration references r) := by
  have hempty : (([] : Files).map Prod.fst).Nodup := List.nodup_nil
  rcases Files.exists_last_of_mem_foldl_write hempty h with
    ⟨h, -⟩ | ⟨before, r, behind, hreferences, hf, hlater⟩
  · exact absurd h List.not_mem_nil
  · rcases List.mem_cons.1 hf with rfl | hf
    · refine .inr ⟨r, ⟨before, behind, hreferences, ?_⟩, rfl⟩
      intro u hu hpath
      apply hlater u hu
      rw [← hpath]
      exact referencePath_mem_pathsOf u
    · refine .inl ⟨r, by simp [hreferences], ?_⟩
      split at hf
      · dsimp only at hf
        split at hf
        · exact absurd hf List.not_mem_nil
        · exact List.mem_singleton.1 hf
      · exact absurd hf List.not_mem_nil

/-! ### Imports that lead somewhere -/

end

/-! ### A type that refers to another product -/

def crossingFields : List TypeField :=
  [⟨"x", [.arrayOf [{ TypeNode.plain "object" with id := some "b" }]], true, ""⟩,
    ⟨"y", [{ TypeNode.plain "object" with id := some "b" }], true, ""⟩]

/-- A type whose fields refer to a type of another product, once below an array. -/
def crossing : Reference := ⟨"p", none, "a", "A", "", .type crossingFields⟩

def crossed : Reference := ⟨"q", none, "b", "B", "", .type []⟩

end ClientScribe.Client
