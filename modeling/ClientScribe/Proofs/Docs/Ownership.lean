import ClientScribe.Collection

/-!
Where collected references come from.  Every one is what a visit gives, and the type page that owns
a visit is visited in the same tree.
-/

namespace ClientScribe

/-! ### Work that went well -/

namespace Outcome

universe u v

variable {ε ε' : Type u} {α β : Type v}

theorem andThen_result_eq_ok {o : Outcome ε α} {next : α → Outcome ε β} {b : β}
    (h : (o.andThen next).result = .ok b) : ∃ a, o.result = .ok a ∧ (next a).result = .ok b := by
  rw [andThen] at h
  split at h
  · exact absurd h (by simp)
  · exact ⟨_, ‹_›, h⟩

theorem map_result_eq_ok {o : Outcome ε α} {f : α → β} {b : β} (h : (o.map f).result = .ok b) :
    ∃ a, o.result = .ok a ∧ f a = b := by
  obtain ⟨notices, result⟩ := o
  cases result with
  | error fault => simp [map, Except.map] at h
  | ok a => exact ⟨a, rfl, Except.ok.inj h⟩

theorem mapFault_result_eq_ok {o : Outcome ε α} {f : ε → ε'} {a : α}
    (h : (o.mapFault f).result = .ok a) : o.result = .ok a := by
  obtain ⟨notices, result⟩ := o
  cases result with
  | error fault => cases h
  | ok b => rw [Except.ok.inj h]

/-- What was gathered came out of one of the pieces of work. -/
theorem exists_of_mem_forEach {work : α → Outcome ε (List β)} {as : List α} {bs : List β}
    (h : (forEach work as).result = .ok bs) {b : β} (hb : b ∈ bs) :
    ∃ a ∈ as, ∃ out, (work a).result = .ok out ∧ b ∈ out := by
  induction as generalizing bs with
  | nil =>
    rw [← Except.ok.inj h] at hb
    exact absurd hb List.not_mem_nil
  | cons a as ih =>
    obtain ⟨out, hout, hrest⟩ := andThen_result_eq_ok h
    obtain ⟨others, hothers, rfl⟩ := map_result_eq_ok hrest
    rcases List.mem_append.1 hb with hb | hb
    · exact ⟨a, List.mem_cons_self, out, hout, hb⟩
    · obtain ⟨a', ha', hwork⟩ := ih hothers hb
      exact ⟨a', List.mem_cons_of_mem a ha', hwork⟩

/-- If every piece of work goes well, everything is gathered in order. -/
theorem forEach_result_of_forall {work : α → Outcome ε (List β)} {out : α → List β} {as : List α}
    (h : ∀ a ∈ as, (work a).result = .ok (out a)) :
    (forEach work as).result = .ok (as.flatMap out) := by
  induction as with
  | nil => rfl
  | cons a as ih =>
    have hrest := ih fun b hb => h b (List.mem_cons_of_mem a hb)
    rw [forEach, andThen, h a List.mem_cons_self]
    simp only [map, hrest]
    rfl

end Outcome

/-! ### Owners -/

/-- The owner of a visit is the owner of the tree or a type page that is visited. -/
theorem DocNode.owner_of_mem_visits (products : List String) (n : DocNode) :
    ∀ (owner : Option String), ∀ v ∈ n.visits products owner, v.owner = owner ∨
      ∃ w ∈ n.visits products owner, w.topic = .typeDefinition ∧ v.owner = some w.page.slug := by
  refine @DocNode.rec
    (fun n => ∀ owner, ∀ v ∈ n.visits products owner, v.owner = owner ∨
      ∃ w ∈ n.visits products owner, w.topic = .typeDefinition ∧ v.owner = some w.page.slug)
    (fun ns => ∀ owner, ∀ v ∈ visitsOfAll products owner ns, v.owner = owner ∨
      ∃ w ∈ visitsOfAll products owner ns, w.topic = .typeDefinition ∧ v.owner = some w.page.slug)
    ?_ ?_ ?_ n
  · intro title slug tag body excerpt endpoint children ih owner v hv
    rw [visits] at hv ⊢
    rcases List.mem_cons.1 hv with rfl | hv
    · exact .inl rfl
    · split at hv
      · rename_i htopic
        rw [if_pos htopic]
        rcases ih (some slug) v hv with howner | ⟨w, hw, hrest⟩
        · exact .inr ⟨_, List.mem_cons_self, htopic, howner⟩
        · exact .inr ⟨w, List.mem_cons_of_mem _ hw, hrest⟩
      · exact absurd hv List.not_mem_nil
  · intro owner v hv
    exact absurd hv List.not_mem_nil
  · intro n ns ihHead ihTail owner v hv
    rw [visitsOfAll] at hv ⊢
    rcases List.mem_append.1 hv with hv | hv
    · rcases ihHead owner v hv with howner | ⟨w, hw, hrest⟩
      · exact .inl howner
      · exact .inr ⟨w, List.mem_append_left _ hw, hrest⟩
    · rcases ihTail owner v hv with howner | ⟨w, hw, hrest⟩
      · exact .inl howner
      · exact .inr ⟨w, List.mem_append_right _ hw, hrest⟩

theorem Reference.override_of_finish {overrides : Overrides} {r s : Reference}
    (h : (r.finish overrides).result = .ok (some s)) : r.override overrides = .ok s := by
  rw [finish] at h
  split at h
  · rename_i heq
    rw [heq, Option.some.inj (Except.ok.inj h)]
  · exact absurd h (by simp [Outcome.fail])

theorem Visit.owner_of_owner? {v : Visit} {owner : String} (h : v.owner? = some owner) :
    v.owner = some owner :=
  (Option.filter_eq_some_iff.1 h).1

/-- What a page can say of a reference: the fields of a table, errors, or an endpoint. -/
inductive Content.Documented : Content → Prop where
  | type {entries : Json.Members} {fields : List TypeField}
    (h : Table.fields entries = .ok fields) : Documented (.type fields)
  | enum (values : List EnumValue) : Documented (.enum values)
  | request (e : Endpoint) : Documented (.request e.request)

/-- What a visit gives is, before its override, of the product and named by the slug of the page.
A type has no parent, and the parent of another reference is the owner of the visit. -/
theorem Visit.exists_own [Interpreter] {rules : ExtractionRules} {product : String} {v : Visit}
    {r : Reference} (h : (v.extract rules product).result = .ok (some r)) :
    ∃ own : Reference, own.override rules.overrides = .ok r ∧ own.content.Documented
      ∧ own.product = product ∧ own.id = v.page.slug
      ∧ (v.topic = .typeDefinition ∧ own.parent = none ∧ own.kind = "type"
        ∨ v.topic ≠ .typeDefinition ∧ own.kind ≠ "type"
          ∧ ∃ owner, v.owner = some owner ∧ own.parent = some owner) := by
  rw [extract] at h
  split at h
  · rename_i htopic
    rw [extractType] at h
    split at h
    · simp [Notice.instead] at h
    · split at h
      · simp [Outcome.fail] at h
      · simp [Notice.instead] at h
      · split at h
        · simp [Outcome.fail] at h
        · rename_i hfields
          exact ⟨_, Reference.override_of_finish h, .type hfields, rfl, rfl,
            .inl ⟨htopic, rfl, rfl⟩⟩
  · rename_i htopic
    split at h
    · simp [Notice.instead] at h
    · rename_i owner hsome
      refine ⟨_, Reference.override_of_finish h, .enum _, rfl, rfl, .inr ⟨by simp [htopic], ?_,
        owner, owner_of_owner? hsome, rfl⟩⟩
      simp [reference, Reference.kind, Content.kind]
  · rename_i htopic
    split at h
    · simp [Notice.instead] at h
    · simp [Notice.instead] at h
    · rename_i owner _ hsome _
      refine ⟨_, Reference.override_of_finish h, .request _, rfl, rfl, .inr ⟨by simp [htopic], ?_,
        owner, owner_of_owner? hsome, rfl⟩⟩
      simp [reference, Reference.kind, Content.kind]
  · simp [Outcome.done] at h
  · simp [Outcome.done] at h
  · simp [Notice.instead] at h

/-- Without overrides this is what the visit gives. -/
theorem Visit.of_extract [Interpreter] {products : List String} {product : String} {v : Visit}
    {r : Reference} (h : (v.extract ⟨[], products⟩ product).result = .ok (some r)) :
    r.product = product ∧ r.id = v.page.slug
    ∧ (v.topic = .typeDefinition ∧ r.parent = none ∧ r.kind = "type"
      ∨ v.topic ≠ .typeDefinition ∧ r.kind ≠ "type"
        ∧ ∃ owner, v.owner = some owner ∧ r.parent = some owner) := by
  obtain ⟨own, hown, -, hrest⟩ := exists_own h
  obtain rfl : own = r := Checked.ok.inj hown
  exact hrest

/-! ### Collected references -/

/-- Where the nodes of a page come from. -/
abbrev Fetch := String → Outcome CollectionFault (List DocNode)

/-- The references of one page of a product. -/
def fetchPage [Interpreter] (fetch : Fetch) (rules : ExtractionRules) (job : String × String) :
    Outcome CollectionFault (List Reference) :=
  (fetch job.2).andThen fun nodes =>
    (Outcome.forEach (fun n => n.extract rules job.1 none) nodes).mapFault .extraction

/-- The references of all products, wherever the nodes of their pages come from. -/
def collectFrom [Interpreter] (fetch : Fetch) (rules : ExtractionRules) (products : List Product) :
    Outcome CollectionFault (List Reference) :=
  (Outcome.forEach (fetchPage fetch rules) (Product.jobs products)).andThen fun rs =>
    let (kept, notices) := Reference.unique rs
    ⟨notices, .ok kept⟩

/-- What is collected from the web comes from its pages. -/
theorem collect_eq_collectFrom [Interpreter] (web : Web) (rules : ExtractionRules)
    (products : List Product) :
    collect web rules products = collectFrom (loadPage web) rules products := rfl

/-- A visit to a page in a tree of a product. -/
def Visited (fetch : Fetch) (titles : List String) (products : List Product) (product : String)
    (v : Visit) (tree : DocNode) : Prop :=
  ∃ job ∈ Product.jobs products, job.1 = product ∧ ∃ nodes, (fetch job.2).result = .ok nodes
    ∧ tree ∈ nodes ∧ v ∈ tree.visits titles none

/-- A product documents a type under a slug. -/
def DocumentsType (fetch : Fetch) (titles : List String) (products : List Product)
    (product slug : String) : Prop :=
  ∃ v tree, Visited fetch titles products product v tree ∧ v.topic = .typeDefinition
    ∧ v.page.slug = slug

theorem Reference.mem_of_mem_uniqueFrom {seen : List String} {rs : List Reference} {r : Reference}
    (h : r ∈ (uniqueFrom seen rs).1) : r ∈ rs := by
  induction rs generalizing seen with
  | nil => exact absurd h List.not_mem_nil
  | cons u rs ih =>
    rw [uniqueFrom] at h
    split at h
    · exact List.mem_cons_of_mem u (ih h)
    · rcases List.mem_cons.1 h with rfl | h
      · exact List.mem_cons_self
      · exact List.mem_cons_of_mem u (ih h)

/-- Where every page is collected, the first reference of every id is kept. -/
theorem collectFrom_of_pages [Interpreter] {fetch : Fetch} {rules : ExtractionRules}
    {products : List Product} {f : String × String → List Reference}
    (h : ∀ job ∈ Product.jobs products, (fetchPage fetch rules job).result = .ok (f job)) :
    (collectFrom fetch rules products).result =
      .ok (Reference.unique ((Product.jobs products).flatMap f)).1 := by
  rw [collectFrom, Outcome.andThen, Outcome.forEach_result_of_forall h]

section

variable {fetch : Fetch} {titles : List String} {products : List Product} {rs : List Reference}

/-- Every collected reference is what a visit to a page gives. -/
theorem exists_visited_of_collectFrom [Interpreter] {rules : ExtractionRules}
    (h : (collectFrom fetch rules products).result = .ok rs) {r : Reference} (hr : r ∈ rs) :
    ∃ product v tree, Visited fetch rules.products products product v tree
      ∧ (v.extract rules product).result = .ok (some r) := by
  obtain ⟨all, hall, hunique⟩ := Outcome.andThen_result_eq_ok h
  have hr : r ∈ all := by
    rw [← Except.ok.inj hunique] at hr
    exact Reference.mem_of_mem_uniqueFrom hr
  obtain ⟨job, hjob, out, hout, hr⟩ := Outcome.exists_of_mem_forEach hall hr
  obtain ⟨nodes, hnodes, hextracted⟩ := Outcome.andThen_result_eq_ok hout
  obtain ⟨tree, htree, out, hout, hr⟩ :=
    Outcome.exists_of_mem_forEach (Outcome.mapFault_result_eq_ok hextracted) hr
  obtain ⟨v, hv, out, hout, hr⟩ := Outcome.exists_of_mem_forEach hout hr
  obtain ⟨found, hfound, rfl⟩ := Outcome.map_result_eq_ok hout
  refine ⟨job.1, v, tree, ⟨job, hjob, rfl, nodes, hnodes, htree, hv⟩, ?_⟩
  rw [hfound, Option.mem_toList.1 hr]

/-- Without overrides the pages are those of the product of the reference. -/
theorem exists_visit_of_collectFrom [Interpreter]
    (h : (collectFrom fetch ⟨[], titles⟩ products).result = .ok rs) {r : Reference} (hr : r ∈ rs) :
    ∃ v tree, Visited fetch titles products r.product v tree
      ∧ (v.extract ⟨[], titles⟩ r.product).result = .ok (some r) := by
  obtain ⟨product, v, tree, hvisited, hextract⟩ := exists_visited_of_collectFrom h hr
  obtain ⟨rfl, -⟩ := Visit.of_extract hextract
  exact ⟨v, tree, hvisited, hextract⟩

theorem documentsType_of_collectFrom [Interpreter]
    (h : (collectFrom fetch ⟨[], titles⟩ products).result = .ok rs) {r : Reference} (hr : r ∈ rs)
    (hkind : r.kind = "type") :
    DocumentsType fetch titles products r.product r.id := by
  obtain ⟨v, tree, hvisited, hextract⟩ := exists_visit_of_collectFrom h hr
  obtain ⟨-, hid, ⟨htopic, -⟩ | ⟨-, hother, -⟩⟩ := Visit.of_extract hextract
  · exact ⟨v, tree, hvisited, htopic, hid.symm⟩
  · exact absurd hkind hother

/-- The parent of a collected reference is a type that its own product documents. -/
theorem documentsType_of_parent [Interpreter]
    (h : (collectFrom fetch ⟨[], titles⟩ products).result = .ok rs) {r : Reference} (hr : r ∈ rs)
    {slug : String} (hparent : r.parent = some slug) :
    DocumentsType fetch titles products r.product slug := by
  obtain ⟨v, tree, hvisited, hextract⟩ := exists_visit_of_collectFrom h hr
  obtain ⟨-, -, ⟨-, hnone, -⟩ | ⟨-, -, owner, howner, hsome⟩⟩ := Visit.of_extract hextract
  · rw [hnone] at hparent
    exact absurd hparent (by simp)
  · rw [hparent, Option.some.injEq] at hsome
    obtain ⟨job, hjob, hproduct, nodes, hnodes, htree, hv⟩ := hvisited
    rcases tree.owner_of_mem_visits titles none v hv with hnone | ⟨w, hw, htopic, hslug⟩
    · rw [hnone] at howner
      exact absurd howner (by simp)
    · rw [howner, Option.some.injEq] at hslug
      exact ⟨w, tree, ⟨job, hjob, hproduct, nodes, hnodes, htree, hw⟩, htopic,
        hslug.symm.trans hsome.symm⟩

end

end ClientScribe
