import ClientScribe.Client.Interface
import ClientScribe.Proofs.Client.TypeExpr
import ClientScribe.Proofs.Reference.Merge

/-!
Interface files: which names a file uses and which it binds.  A file imports what its fields refer
to outside of inline objects, so it binds every name that it uses there; a name that it uses inside
an inline object is bound only if something else binds it.
-/

namespace ClientScribe.Client

/-- One import: a name and the module that it comes from. -/
structure Import where
  name : String
  path : String

/-- A member of an interface. -/
structure Member where
  name : String
  required : Bool
  description : String
  types : List TypeExpr

/-- What the file of an interface says. -/
structure InterfaceFile where
  imports : List Import
  name : String
  members : List Member

/-- The lines, each once. -/
def distinctLines (lines : List String) : List String :=
  lines.foldl (fun acc line => if acc.contains line then acc else acc ++ [line]) []

def Member.text (m : Member) : String :=
  commentOf m.description ++ "  " ++ property m.name ++ (if m.required then "" else "?") ++ ": "
    ++ " | ".intercalate (TypeExpr.texts m.types) ++ ";\n"

def InterfaceFile.text (file : InterfaceFile) : String :=
  importBlock (distinctLines (file.imports.map fun i => importLine i.name i.path))
    ++ "export interface " ++ file.name ++ " \x7b\n"
    ++ String.join (file.members.map Member.text)
    ++ "\x7d\n"

namespace InterfaceFile

/-- A member of the file names a reference; `inside` tells whether an inline object is around the
name. -/
def Names (file : InterfaceFile) (inside : Bool) (target : Reference) : Prop :=
  ∃ m ∈ file.members, ∃ e ∈ m.types, e.Names target inside

/-- A name is the one that the file declares, or the file imports it. -/
def Binds (file : InterfaceFile) (name : String) : Prop :=
  name = file.name ∨ ∃ i ∈ file.imports, i.name = name

/-- Every name that is used in a member is bound. -/
def IsClosed (file : InterfaceFile) : Prop :=
  ∀ inside target, file.Names inside target → file.Binds target.name

end InterfaceFile

/-! ### The file of a reference -/

/-- The import of a reference in the file at `own`. -/
def importFor? (own : String) (target : Reference) : Option Import :=
  if referencePath target = own then none
  else some ⟨target.name, importPath (Path.directory own) (referencePath target)⟩

def importsFor (references : List Reference) (own : String) (fields : List TypeField) :
    List Import :=
  (fields.flatMap fun f => typeIds f.types).filterMap fun id =>
    (Reference.find? id references).bind (importFor? own)

def memberFor (references : List Reference) (f : TypeField) : Member :=
  ⟨f.name, f.required, f.description, nodeExprs references f.types⟩

/-- The file that declares a reference with the given fields. -/
def interfaceFile (references : List Reference) (r : Reference) (fields : List TypeField) :
    InterfaceFile :=
  ⟨importsFor references (referencePath r) fields, r.name,
    (TypeField.merge fields).map (memberFor references)⟩

/-- The fields that a reference is declared with, if it is declared as an interface. -/
def interfaceFields? (r : Reference) : Option (List TypeField) :=
  match r.content with
  | .type fields => some fields
  | .enum _ => none
  | .request request => some request.fields

section

variable {references : List Reference} {r : Reference} {fields : List TypeField}

theorem importOf?_eq (own : String) (target : Reference) :
    importOf? own target = (importFor? own target).map fun i => importLine i.name i.path := by
  rw [importOf?, importFor?]
  split <;> rfl

theorem importLines_eq (own : String) :
    importLines references own fields =
      distinctLines ((importsFor references own fields).map fun i => importLine i.name i.path) := by
  have hlines (ids : List String) :
      (ids.filterMap fun id => (Reference.find? id references).bind (importOf? own)) =
        (ids.filterMap fun id => (Reference.find? id references).bind (importFor? own)).map
          fun i => importLine i.name i.path := by
    rw [List.map_filterMap]
    congr 1
    funext id
    cases Reference.find? id references with
    | none => rfl
    | some target => exact importOf?_eq own target
  rw [importLines, distinctLines, importsFor, ← hlines]

theorem memberText_eq (f : TypeField) :
    memberText references f = (memberFor references f).text := by
  rw [memberText, Member.text, typeText_eq]
  rfl

theorem declaration_eq_interfaceText (h : interfaceFields? r = some fields) :
    declaration references r = interfaceText references r fields := by
  rw [interfaceFields?] at h
  rw [declaration]
  split at h <;> simp_all

/-- A declaration of an interface is written as its file says. -/
theorem declaration_eq_text (h : interfaceFields? r = some fields) :
    declaration references r = (interfaceFile references r fields).text := by
  have hmembers : memberText references = fun f => (memberFor references f).text :=
    funext memberText_eq
  rw [declaration_eq_interfaceText h, interfaceText, InterfaceFile.text, interfaceFile,
    importLines_eq, hmembers]
  simp only [List.map_map, Function.comp_def]

/-! ### Names that are bound -/

/-- A field refers, outside of inline objects, to a reference of that name with another file. -/
def Imports (references : List Reference) (r : Reference) (fields : List TypeField)
    (name : String) : Prop :=
  ∃ f ∈ fields, ∃ id ∈ typeIds f.types, ∃ target, Reference.find? id references = some target
    ∧ referencePath target ≠ referencePath r ∧ target.name = name

theorem interfaceFile_binds_iff {name : String} :
    (interfaceFile references r fields).Binds name ↔
      name = r.name ∨ Imports references r fields name := by
  refine or_congr Iff.rfl ⟨?_, ?_⟩
  · rintro ⟨i, hi, rfl⟩
    obtain ⟨id, hid, himport⟩ := List.mem_filterMap.1 hi
    obtain ⟨f, hf, hid⟩ := List.mem_flatMap.1 hid
    obtain ⟨target, hfind, himport⟩ := Option.bind_eq_some_iff.1 himport
    rw [importFor?, Option.ite_none_left_eq_some] at himport
    obtain ⟨hpath, himport⟩ := himport
    exact ⟨f, hf, id, hid, target, hfind, hpath, by rw [← Option.some.inj himport]⟩
  · rintro ⟨f, hf, id, hid, target, hfind, hpath, rfl⟩
    have himport : importFor? (referencePath r) target = some ⟨target.name,
        importPath (Path.directory (referencePath r)) (referencePath target)⟩ := if_neg hpath
    have hmem : (⟨target.name, importPath (Path.directory (referencePath r))
        (referencePath target)⟩ : Import) ∈ importsFor references (referencePath r) fields := by
      apply List.mem_filterMap.2
      refine ⟨id, List.mem_flatMap.2 ⟨f, hf, hid⟩, ?_⟩
      rw [hfind, Option.bind_some, himport]
    exact ⟨_, hmem, rfl⟩

/-- What a member names outside of inline objects is imported, unless its file is the file
itself. -/
theorem imports_of_names_outside {target : Reference}
    (h : (interfaceFile references r fields).Names false target)
    (hpath : referencePath target ≠ referencePath r) :
    Imports references r fields target.name := by
  obtain ⟨m, hm, e, he, hnames⟩ := h
  obtain ⟨f, hf, rfl⟩ := List.mem_map.1 hm
  have he : e ∈ nodeExprs references f.types := he
  rw [nodeExprs_eq_map] at he
  obtain ⟨t, ht, rfl⟩ := List.mem_map.1 he
  obtain ⟨id, hid, hfind⟩ := exists_id_of_names hnames
  obtain ⟨g, hg, htg⟩ := TypeField.exists_of_mem_merge hf ht
  exact ⟨g, hg, id, mem_typeIds.2 ⟨t, htg, hid⟩, target, hfind, hpath, rfl⟩

/-- Every name that a file uses is bound exactly if those are that the walk over the ids leaves out:
the names inside inline objects, and those of references whose file is the file itself. -/
theorem interfaceFile_isClosed_iff (references : List Reference) (r : Reference)
    (fields : List TypeField) (h : interfaceFields? r = some fields) :
    declaration references r = (interfaceFile references r fields).text
    ∧ ((interfaceFile references r fields).IsClosed ↔
      ∀ target, (interfaceFile references r fields).Names true target
          ∨ (interfaceFile references r fields).Names false target
            ∧ referencePath target = referencePath r →
        target.name = r.name ∨ Imports references r fields target.name) := by
  refine ⟨declaration_eq_text h, ?_, ?_⟩
  · intro hclosed target hnames
    apply interfaceFile_binds_iff.1
    rcases hnames with hinside | ⟨houtside, -⟩
    · exact hclosed true target hinside
    · exact hclosed false target houtside
  · intro hleft inside target hnames
    apply interfaceFile_binds_iff.2
    cases inside with
    | true => exact hleft target (.inl hnames)
    | false =>
      by_cases hpath : referencePath target = referencePath r
      · exact hleft target (.inr ⟨hnames, hpath⟩)
      · exact .inr (imports_of_names_outside hnames hpath)

end

/-! ### An inline object that names a reference -/

/-- A type that is named inside an inline object of another one. -/
def inlined : Reference := ⟨"p", none, "b", "B", "", .type []⟩

def inliningFields : List TypeField :=
  [⟨"x", [{ TypeNode.plain "object" with
    fields := some [⟨"y", [{ TypeNode.plain "object" with id := some "b" }], true, ""⟩] }],
    true, ""⟩]

def inlining : Reference := ⟨"p", none, "a", "A", "", .type inliningFields⟩

theorem inlining_names_inlined :
    (interfaceFile [inlining, inlined] inlining inliningFields).Names true inlined :=
  ⟨memberFor [inlining, inlined] ⟨"x", _, true, ""⟩, List.mem_cons_self, _, List.mem_cons_self,
    .member List.mem_cons_self List.mem_cons_self .here⟩

/-- The file uses the name and does not bind it. -/
theorem inlining_not_closed :
    declaration [inlining, inlined] inlining =
      "export interface A \x7b\n  x: \x7b y: Partial<B> \x7d;\n\x7d\n"
    ∧ ¬ (interfaceFile [inlining, inlined] inlining inliningFields).IsClosed := by
  refine ⟨by decide, ?_⟩
  intro hclosed
  rcases hclosed true inlined inlining_names_inlined with hname | ⟨i, hi, -⟩
  · exact absurd hname (by decide)
  · exact absurd hi List.not_mem_nil

/-- The same by what decides whether a file binds its names. -/
theorem inlining_not_closed_by_imports :
    interfaceFields? inlining = some inliningFields
    ∧ ¬ (interfaceFile [inlining, inlined] inlining inliningFields).IsClosed := by
  refine ⟨rfl, ?_⟩
  intro hclosed
  have hiff := (interfaceFile_isClosed_iff [inlining, inlined] inlining inliningFields rfl).2
  rcases hiff.1 hclosed inlined (.inl inlining_names_inlined) with hname | ⟨f, hf, id, hid, -⟩
  · exact absurd hname (by decide)
  · rw [List.mem_singleton.1 hf] at hid
    exact absurd hid List.not_mem_nil

end ClientScribe.Client
