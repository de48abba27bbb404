import ClientScribe.Proofs.Docs.Success
import Mathlib.Data.List.Forall2

/-!
Extraction as a walk over the whole tree.  All pages stand in pre-order, each with the pages around
it; a page is visited if these are type pages, and the visited pages give one reference each, but
for those that describe nothing.
-/

namespace ClientScribe

/-- A page of a tree with the pages around it, the innermost first. -/
structure Place where
  page : DocNode
  around : List DocNode

mutual

/-- All pages of a tree in pre-order. -/
def DocNode.places (around : List DocNode) : DocNode → List Place
  | ⟨title, slug, tag, body, excerpt, endpoint, children⟩ =>
    let n : DocNode := ⟨title, slug, tag, body, excerpt, endpoint, children⟩
    ⟨n, around⟩ :: DocNode.placesOfAll (n :: around) children

def DocNode.placesOfAll (around : List DocNode) : List DocNode → List Place
  | [] => []
  | n :: ns => DocNode.places around n ++ DocNode.placesOfAll around ns

end

/-- The topic of a page by its tag and its clean title. -/
def DocNode.topic (titles : List String) (n : DocNode) : Topic :=
  Topic.of n.tag (Title.clean titles n.title)

/-- The first parameters block is an object, and so is its table, if there is one. -/
def Body.hasTable [Interpreter] (body : String) : Bool :=
  match (Body.block? body).map Json.read with
  | some (.ok (.obj members)) =>
    match members.lookup "data" with
    | none | some (.obj _) => true
    | some _ => false
  | _ => false

namespace Place

/-- Every page around is a type page. -/
def isVisited (titles : List String) (p : Place) : Bool :=
  p.around.all fun n => n.topic titles = .typeDefinition

/-- The slug of the innermost page; around the whole tree stands `parent`. -/
def ownerIn (parent : Option String) : List DocNode → Option String
  | [] => parent
  | n :: _ => some n.slug

def owner (parent : Option String) (p : Place) : Option String := ownerIn parent p.around

def isOwned (parent : Option String) (p : Place) : Bool :=
  (p.owner parent).any fun slug => !slug.isEmpty

/-- A visited page of a type with a table, of errors under an owner, or of an endpoint under an
owner that says how it is called. -/
def counts [Interpreter] (titles : List String) (parent : Option String) (p : Place) : Bool :=
  p.isVisited titles &&
    match p.page.topic titles with
    | .typeDefinition => Body.hasTable p.page.body
    | .errorList => p.isOwned parent
    | .endpoint => p.isOwned parent && p.page.endpoint.isSome
    | .sequence | .webhook | .unrecognized => false

/-- The reference that stands for a page. -/
inductive Gives [Interpreter] (titles : List String) (product : String) (parent : Option String)
    (p : Place) :
    Reference → Prop
  | type {block : String} {value : Json} {entries : Json.Members} {fields : List TypeField}
    (htopic : p.page.topic titles = .typeDefinition)
    (hblock : Body.block? p.page.body = some block) (hread : Json.read block = .ok value)
    (hcells : Body.cellsOf value = .ok entries) (hfields : Table.fields entries = .ok fields) :
    Gives titles product parent p
      ⟨product, none, p.page.slug, Title.typeName (Title.clean titles p.page.title),
        p.page.excerpt, .type fields⟩
  | errors {slug : String} (htopic : p.page.topic titles = .errorList)
    (howner : p.owner parent = some slug) :
    Gives titles product parent p
      ⟨product, some slug, p.page.slug, Title.enumName (Title.clean titles p.page.title),
        p.page.excerpt, .enum (Body.errors p.page.body)⟩
  | request {slug : String} {endpoint : Endpoint} (htopic : p.page.topic titles = .endpoint)
    (howner : p.owner parent = some slug) (hendpoint : p.page.endpoint = some endpoint) :
    Gives titles product parent p
      ⟨product, some slug, p.page.slug, Title.requestName (Title.clean titles p.page.title),
        p.page.excerpt, .request endpoint.request⟩

/-- The visit to a page. -/
def visit (titles : List String) (parent : Option String) (p : Place) : Visit :=
  ⟨{ p.page with title := Title.clean titles p.page.title }, p.owner parent⟩

end Place

/-! ### The visits of a tree -/

theorem DocNode.mem_around_of_mem_placesOfAll {p : Place} {n : DocNode} :
    ∀ (ns around : List DocNode), n ∈ around → p ∈ placesOfAll around ns → n ∈ p.around := by
  refine @DocNode.rec_1
    (fun m => ∀ around, n ∈ around → p ∈ m.places around → n ∈ p.around)
    (fun ms => ∀ around, n ∈ around → p ∈ placesOfAll around ms → n ∈ p.around) ?_ ?_ ?_
  · intro title slug tag body excerpt endpoint children ih around hn hp
    rw [places] at hp
    rcases List.mem_cons.1 hp with rfl | hp
    · exact hn
    · exact ih _ (List.mem_cons_of_mem _ hn) hp
  · intro around _ hp
    exact absurd hp List.not_mem_nil
  · intro m ms ihHead ihTail around hn hp
    rw [placesOfAll] at hp
    rcases List.mem_append.1 hp with hp | hp
    · exact ihHead around hn hp
    · exact ihTail around hn hp

section

variable {titles : List String} {parent : Option String}

/-- Below a page that is no type page nothing is visited. -/
theorem DocNode.filter_isVisited_placesOfAll {n : DocNode} {around ns : List DocNode}
    (hn : n ∈ around) (htopic : n.topic titles ≠ .typeDefinition) :
    (placesOfAll around ns).filter (Place.isVisited titles) = [] := by
  apply List.filter_eq_nil_iff.2
  intro p hp hvisited
  have hall := List.all_eq_true.1 hvisited n (mem_around_of_mem_placesOfAll ns around hn hp)
  exact htopic (of_decide_eq_true hall)

/-- The visits go to the visited places, in pre-order. -/
theorem DocNode.visits_eq_map (n : DocNode) :
    ∀ around : List DocNode, (∀ m ∈ around, m.topic titles = .typeDefinition) →
      n.visits titles (Place.ownerIn parent around) =
        ((n.places around).filter (Place.isVisited titles)).map (Place.visit titles parent) := by
  refine @DocNode.rec
    (fun n => ∀ around : List DocNode, (∀ m ∈ around, m.topic titles = .typeDefinition) →
      n.visits titles (Place.ownerIn parent around) =
        ((n.places around).filter (Place.isVisited titles)).map (Place.visit titles parent))
    (fun ns => ∀ around : List DocNode, (∀ m ∈ around, m.topic titles = .typeDefinition) →
      visitsOfAll titles (Place.ownerIn parent around) ns =
        ((placesOfAll around ns).filter (Place.isVisited titles)).map (Place.visit titles parent))
    ?_ ?_ ?_ n
  · intro title slug tag body excerpt endpoint children ih around haround
    have hvisited (n : DocNode) : Place.isVisited titles ⟨n, around⟩ = true :=
      List.all_eq_true.2 fun m hm => decide_eq_true (haround m hm)
    have hpage : Topic.of tag (Title.clean titles title) =
        DocNode.topic titles ⟨title, slug, tag, body, excerpt, endpoint, children⟩ := rfl
    rw [visits, places, List.filter_cons, if_pos (hvisited _), List.map_cons, hpage]
    congr 1
    split
    · rename_i htopic
      exact ih (_ :: around) (List.forall_mem_cons.2 ⟨htopic, haround⟩)
    · rename_i htopic
      rw [filter_isVisited_placesOfAll List.mem_cons_self htopic, List.map_nil]
  · intro around _
    rfl
  · intro m ms ihHead ihTail around haround
    rw [visitsOfAll, placesOfAll, List.filter_append, List.map_append, ihHead around haround,
      ihTail around haround]

/-! ### What a visit gives -/

theorem Body.hasTable_iff [Interpreter] {body : String} :
    Body.hasTable body = true ↔ ∃ block value entries, Body.block? body = some block
      ∧ Json.read block = .ok value ∧ Body.cellsOf value = .ok entries := by
  rw [Body.hasTable]
  cases Body.block? body with
  | none => simp
  | some block =>
    cases hread : Json.read block with
    | error fault => simp [hread]
    | ok value =>
      simp only [Option.map_some, hread, Option.some.injEq, Except.ok.injEq, exists_eq_left',
        exists_and_left]
      unfold Body.cellsOf
      cases value with
      | obj members =>
        dsimp only
        cases members.lookup "data" with
        | none => simp
        | some data => cases data <;> simp
      | _ => simp

theorem Place.owner?_visit (titles : List String) (parent : Option String) (p : Place) :
    (p.visit titles parent).owner? = none ∧ p.isOwned parent = false
    ∨ ∃ slug, (p.visit titles parent).owner? = some slug ∧ p.owner parent = some slug
      ∧ p.isOwned parent = true := by
  rw [Visit.owner?, isOwned, visit]
  cases p.owner parent with
  | none => exact .inl ⟨rfl, rfl⟩
  | some slug =>
    cases hslug : slug.isEmpty with
    | true => exact .inl ⟨by simp [Option.filter, hslug], by simp [hslug]⟩
    | false => exact .inr ⟨slug, by simp [Option.filter, hslug], rfl, by simp [hslug]⟩

/-- A type page that is read gives its table, if it has one. -/
theorem Place.given_of_typeDefinition [Interpreter] {product : String} {p : Place}
    (htopic : p.page.topic titles = .typeDefinition)
    (hread : ∃ found, ((p.visit titles parent).extractType ⟨[], titles⟩ product).result =
      .ok found) :
    Body.hasTable p.page.body = true ∧ (∃ r, Gives titles product parent p r
      ∧ ((p.visit titles parent).extractType ⟨[], titles⟩ product).result = .ok (some r))
    ∨ Body.hasTable p.page.body = false
      ∧ ((p.visit titles parent).extractType ⟨[], titles⟩ product).result = .ok none := by
  obtain ⟨found, hfound⟩ := hread
  cases htable : Body.hasTable p.page.body with
  | true =>
    obtain ⟨block, value, entries, hblock, hvalue, hcells⟩ := Body.hasTable_iff.1 htable
    refine .inl ⟨rfl, ?_⟩
    have hbody : Body.cells block = .ok (.ok entries) := by simp only [Body.cells, hvalue, hcells]
    have hpage : Body.block? (p.visit titles parent).page.body = some block := hblock
    simp only [Visit.extractType, hpage, hbody] at hfound ⊢
    cases hfields : Table.fields entries with
    | error fault => simp [hfields, Outcome.fail] at hfound
    | ok fields => exact ⟨_, .type htopic hblock hvalue hcells hfields, rfl⟩
  | false =>
    refine .inr ⟨rfl, ?_⟩
    rw [Visit.extractType] at hfound ⊢
    cases hblock : Body.block? (p.visit titles parent).page.body with
    | none => rfl
    | some block =>
      simp only [hblock] at hfound ⊢
      rw [Body.cells] at hfound ⊢
      cases hvalue : Json.read block with
      | error fault =>
        cases fault with
        | text cause rest => rfl
        | excess e => simp [hvalue, Outcome.fail] at hfound
      | ok value =>
        cases hcells : Body.cellsOf value with
        | error fault => simp only [hcells]; rfl
        | ok entries =>
          have htable' := Body.hasTable_iff.2 ⟨block, value, entries, hblock, hvalue, hcells⟩
          exact absurd (htable.symm.trans htable') Bool.false_ne_true

/-- A visited page gives its reference exactly if it counts. -/
theorem Place.given_visit [Interpreter] {product : String} {p : Place}
    (hvisited : p.isVisited titles = true)
    (hread : ∃ found, ((p.visit titles parent).extract ⟨[], titles⟩ product).result = .ok found) :
    p.counts titles parent = true ∧ (∃ r, Gives titles product parent p r
      ∧ (p.visit titles parent).given titles product = [r])
    ∨ p.counts titles parent = false ∧ (p.visit titles parent).given titles product = [] := by
  rw [counts, hvisited, Bool.true_and, Visit.given]
  have htopic : (p.visit titles parent).topic = p.page.topic titles := rfl
  rw [Visit.extract, htopic] at hread ⊢
  cases hpage : p.page.topic titles with
  | typeDefinition =>
    simp only [hpage] at hread
    rcases given_of_typeDefinition hpage hread with ⟨htable, r, hr, hgives⟩ | ⟨htable, hnone⟩
    · exact .inl ⟨htable, r, hr, by simp only [hgives, Option.toList_some]⟩
    · exact .inr ⟨htable, by simp only [hnone, Option.toList_none]⟩
  | errorList =>
    rcases owner?_visit titles parent p with
      ⟨hnone, howned⟩ | ⟨slug, hsome, howner, howned⟩
    · exact .inr ⟨howned, by simp only [hnone]; rfl⟩
    · exact .inl ⟨howned, _, .errors hpage howner, by simp only [hsome]; rfl⟩
  | endpoint =>
    rcases owner?_visit titles parent p with
      ⟨hnone, howned⟩ | ⟨slug, hsome, howner, howned⟩
    · exact .inr ⟨by simp [howned], by simp only [hnone]; rfl⟩
    · cases hendpoint : p.page.endpoint with
      | none =>
        have hvisit : (p.visit titles parent).page.endpoint = none := hendpoint
        exact .inr ⟨by simp, by simp only [hsome, hvisit]; rfl⟩
      | some endpoint =>
        have hvisit : (p.visit titles parent).page.endpoint = some endpoint := hendpoint
        exact .inl ⟨by simp [howned], _, .request hpage howner hendpoint,
          by simp only [hsome, hvisit]; rfl⟩
  | sequence => exact .inr ⟨rfl, rfl⟩
  | webhook => exact .inr ⟨rfl, rfl⟩
  | unrecognized => exact .inr ⟨rfl, rfl⟩

/-- Where each item that counts gives one thing and no other item gives any, the things stand in the
order of the items. -/
theorem forall₂_flatMap_of_counts {α β : Type} {R : α → β → Prop} {f : α → List β}
    {counts : α → Bool} {as : List α}
    (h : ∀ a ∈ as, counts a = true ∧ (∃ b, R a b ∧ f a = [b]) ∨ counts a = false ∧ f a = []) :
    List.Forall₂ R (as.filter counts) (as.flatMap f) := by
  induction as with
  | nil => exact .nil
  | cons a as ih =>
    rw [List.forall_mem_cons] at h
    rw [List.filter_cons, List.flatMap_cons]
    rcases h.1 with ⟨hcounts, b, hb, hf⟩ | ⟨hcounts, hf⟩
    · rw [if_pos hcounts, hf]
      exact .cons hb (ih h.2)
    · rw [if_neg (by simp [hcounts]), hf]
      exact ih h.2

theorem Place.counts_and_isVisited [Interpreter] (p : Place) :
    (p.counts titles parent && p.isVisited titles) = p.counts titles parent := by
  rw [counts]
  cases p.isVisited titles <;> simp

end

/-- Extraction gives the references of the places that count, one for each, in pre-order. -/
theorem extract_preorder [Interpreter] (titles : List String) (product : String)
    (parent : Option String) (n : DocNode) (rs : List Reference)
    (h : (n.extract ⟨[], titles⟩ product parent).result = .ok rs) :
    List.Forall₂ (Place.Gives titles product parent)
      ((n.places []).filter (Place.counts titles parent)) rs := by
  have hvisits : n.visits titles parent =
      ((n.places []).filter (Place.isVisited titles)).map (Place.visit titles parent) :=
    n.visits_eq_map [] (List.forall_mem_nil _)
  have hcounts : (n.places []).filter (Place.counts titles parent) =
      ((n.places []).filter (Place.isVisited titles)).filter (Place.counts titles parent) := by
    simp only [List.filter_filter, Place.counts_and_isVisited]
  have hsafe := DocNode.exists_extract_iff.1 ⟨rs, h⟩
  rw [DocNode.extract_eq_flatMap h, hvisits, List.flatMap_map, hcounts]
  apply forall₂_flatMap_of_counts
  intro p hp
  have hvisit : p.visit titles parent ∈ n.visits titles parent :=
    hvisits ▸ List.mem_map_of_mem hp
  exact Place.given_visit (List.mem_filter.1 hp).2
    (Visit.exists_extract_iff.2 (hsafe _ hvisit))

/-! ### A tree with pages that do not count -/

/-- A type with a table, its errors, an overview with a type below it, and a type without a table
that owns an endpoint. -/
def mixedTree : DocNode :=
  ⟨"A Object", "a", "basic", "[block:parameters]\x7b\x7d[/block]", "", none,
    [⟨"A Errors", "e", "basic", "", "", none, []⟩,
     ⟨"Overview", "o", "basic", "", "", none,
      [⟨"B Object", "b", "basic", "[block:parameters]\x7b\x7d[/block]", "", none, []⟩]⟩,
     ⟨"C Object", "c", "basic", "", "", none,
      [⟨"Get C", "g", "endpoint", "", "", some ⟨"get", "/cs", []⟩, []⟩]⟩]⟩

theorem mixedTree_in_preorder : ∃ rs,
    (mixedTree.extract ⟨[], []⟩ "p" none).result = .ok rs
    ∧ rs.map (fun r => (r.kind, r.id, r.parent)) =
      [("type", "a", none), ("enum", "e", some "a"), ("request", "g", some "c")]
    ∧ List.Forall₂ (Place.Gives [] "p" none)
      ((mixedTree.places []).filter (Place.counts [] none)) rs := by
  have hfound : ((mixedTree.extract ⟨[], []⟩ "p" none).result.toOption.any fun rs =>
      rs.map (fun r => (r.kind, r.id, r.parent)) ==
        [("type", "a", none), ("enum", "e", some "a"), ("request", "g", some "c")]) = true := by
    decide +kernel
  obtain ⟨rs, hextract, hids⟩ := Outcome.exists_of_any hfound
  exact ⟨rs, hextract, eq_of_beq hids, extract_preorder [] "p" none mixedTree rs hextract⟩

end ClientScribe
