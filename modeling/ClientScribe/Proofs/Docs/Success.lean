import ClientScribe.Proofs.Docs.Ownership
import ClientScribe.Proofs.Docs.Table

/-!
When extraction succeeds.  Whatever is malformed in a document is noticed and left out, with one
exception: a parameters block whose table names a cell to the left of its columns ends the
extraction, of that page and of all others.
-/

namespace ClientScribe

namespace Outcome

variable {ε ε' α β : Type}

/-- All pieces of work go well exactly if each does. -/
theorem exists_forEach_iff {work : α → Outcome ε (List β)} {as : List α} :
    (∃ bs, (forEach work as).result = .ok bs) ↔ ∀ a ∈ as, ∃ out, (work a).result = .ok out := by
  induction as with
  | nil => exact ⟨fun _ a ha => absurd ha List.not_mem_nil, fun _ => ⟨[], rfl⟩⟩
  | cons a as ih =>
    rw [List.forall_mem_cons, ← ih]
    constructor
    · rintro ⟨bs, h⟩
      obtain ⟨out, hout, hrest⟩ := andThen_result_eq_ok h
      obtain ⟨others, hothers, -⟩ := map_result_eq_ok hrest
      exact ⟨⟨out, hout⟩, others, hothers⟩
    · rintro ⟨⟨out, hout⟩, others, hothers⟩
      refine ⟨out ++ others, ?_⟩
      simp only [forEach, andThen, hout, map, hothers]
      rfl

theorem exists_map_iff {o : Outcome ε α} {f : α → β} :
    (∃ b, (o.map f).result = .ok b) ↔ ∃ a, o.result = .ok a := by
  obtain ⟨notices, result⟩ := o
  cases result <;> simp [map, Except.map]

theorem exists_mapFault_iff {o : Outcome ε α} {f : ε → ε'} :
    (∃ a, (o.mapFault f).result = .ok a) ↔ ∃ a, o.result = .ok a := by
  obtain ⟨notices, result⟩ := o
  cases result with
  | error fault => constructor <;> rintro ⟨_, h⟩ <;> cases h
  | ok a => exact ⟨fun _ => ⟨a, rfl⟩, fun _ => ⟨a, rfl⟩⟩

/-- What ended the work. -/
def fault? (o : Outcome ε α) : Option ε :=
  match o.result with
  | .ok _ => none
  | .error fault => some fault

theorem result_of_fault?_eq_some {o : Outcome ε α} {fault : ε} (h : o.fault? = some fault) :
    o.result = .error fault := by
  rw [fault?] at h
  split at h
  · exact absurd h (by simp)
  · obtain rfl := Option.some.inj h
    assumption

theorem exists_result_of_fault?_eq_none {o : Outcome ε α} (h : o.fault? = none) :
    ∃ a, o.result = .ok a := by
  rw [fault?] at h
  split at h
  · exact ⟨_, ‹_›⟩
  · exact absurd h (by simp)

/-- Work whose result passes a test has one. -/
theorem exists_of_any {o : Outcome ε α} {test : α → Bool} (h : o.result.toOption.any test = true) :
    ∃ a, o.result = .ok a ∧ test a = true := by
  cases hresult : o.result with
  | error fault =>
    rw [hresult] at h
    exact absurd h Bool.false_ne_true
  | ok a =>
    rw [hresult] at h
    exact ⟨a, rfl, h⟩

end Outcome

namespace Visit

/-- The parameters block of a type page is nested too deep or has a number of too many digits. -/
def IsExcessive [Interpreter] (v : Visit) : Prop :=
  v.topic = .typeDefinition ∧ ∃ block excess, Body.block? v.page.body = some block
    ∧ Json.read block = .error (.excess excess)

/-- A table in the parameters block of a type page names a cell outside. -/
def LeavesTable [Interpreter] (v : Visit) : Prop :=
  v.topic = .typeDefinition ∧ ∃ block value entries, Body.block? v.page.body = some block
    ∧ Json.read block = .ok value ∧ Body.cellsOf value = .ok entries
    ∧ ∃ entry ∈ entries, Table.IsOutside entry.1

theorem exists_extractType_iff [Interpreter] {titles : List String} {product : String} {v : Visit}
    (htopic : v.topic = .typeDefinition) :
    (∃ found, (v.extractType ⟨[], titles⟩ product).result = .ok found) ↔
      ¬ v.IsExcessive ∧ ¬ v.LeavesTable := by
  unfold extractType IsExcessive LeavesTable
  cases hblock : Body.block? v.page.body with
  | none => simp [Notice.instead]
  | some block =>
    dsimp only
    unfold Body.cells
    cases hread : Json.read block with
    | error fault => cases fault <;> simp [htopic, hread, Notice.instead, Outcome.fail]
    | ok value =>
      dsimp only
      cases hcells : Body.cellsOf value with
      | error fault => simp [hread, hcells, Notice.instead]
      | ok entries =>
        have htable := @Table.exists_fields_iff entries
        cases hfields : Table.fields entries with
        | error fault =>
          rw [hfields] at htable
          simpa [htopic, hread, hcells, hfields, Outcome.fail] using htable
        | ok fs =>
          rw [hfields] at htable
          simpa [htopic, hread, hcells, hfields, Reference.finish, Reference.override,
            Outcome.done] using htable

/-- A visit fails only at the parameters block of a type page. -/
theorem exists_extract_iff [Interpreter] {titles : List String} {product : String} {v : Visit} :
    (∃ found, (v.extract ⟨[], titles⟩ product).result = .ok found) ↔
      ¬ v.IsExcessive ∧ ¬ v.LeavesTable := by
  by_cases htopic : v.topic = .typeDefinition
  · rw [extract, htopic]
    exact exists_extractType_iff htopic
  · have hsafe : ¬ v.IsExcessive ∧ ¬ v.LeavesTable :=
      ⟨fun h => htopic h.1, fun h => htopic h.1⟩
    refine iff_of_true ?_ hsafe
    rw [extract]
    split
    · exact absurd ‹_› htopic
    · split <;> exact ⟨_, rfl⟩
    · split <;> exact ⟨_, rfl⟩
    · exact ⟨_, rfl⟩
    · exact ⟨_, rfl⟩
    · exact ⟨_, rfl⟩

/-- The reference of a visit, if it gives one. -/
def given [Interpreter] (titles : List String) (product : String) (v : Visit) : List Reference :=
  match (v.extract ⟨[], titles⟩ product).result with
  | .ok found => found.toList
  | .error _ => []

end Visit

/-! ### Trees and products -/

theorem DocNode.exists_extract_iff [Interpreter] {titles : List String} {product : String}
    {owner : Option String} {n : DocNode} :
    (∃ rs, (n.extract ⟨[], titles⟩ product owner).result = .ok rs) ↔
      ∀ v ∈ n.visits titles owner, ¬ v.IsExcessive ∧ ¬ v.LeavesTable := by
  rw [extract, Outcome.exists_forEach_iff]
  simp only [Outcome.exists_map_iff, Visit.exists_extract_iff]

/-- Each visit gives what it gives by itself. -/
theorem DocNode.extract_eq_flatMap [Interpreter] {titles : List String} {product : String}
    {owner : Option String} {n : DocNode} {rs : List Reference}
    (h : (n.extract ⟨[], titles⟩ product owner).result = .ok rs) :
    rs = (n.visits titles owner).flatMap (Visit.given titles product) := by
  have heach : ∀ v ∈ n.visits titles owner,
      ((v.extract ⟨[], titles⟩ product).map Option.toList).result =
        .ok (v.given titles product) := by
    intro v hv
    obtain ⟨found, hfound⟩ :=
      Visit.exists_extract_iff.2 (DocNode.exists_extract_iff.1 ⟨rs, h⟩ v hv)
    rw [Visit.given, Outcome.map, hfound]
    rfl
  rw [extract, Outcome.forEach_result_of_forall heach] at h
  exact (Except.ok.inj h).symm

theorem exists_fetchPage_iff [Interpreter] {fetch : Fetch} {titles : List String}
    {job : String × String} {nodes : List DocNode} (hnodes : (fetch job.2).result = .ok nodes) :
    (∃ rs, (fetchPage fetch ⟨[], titles⟩ job).result = .ok rs) ↔
      ∀ n ∈ nodes, ∀ v ∈ n.visits titles none, ¬ v.IsExcessive ∧ ¬ v.LeavesTable := by
  have hextract : (fetchPage fetch ⟨[], titles⟩ job).result =
      ((Outcome.forEach (fun n => n.extract ⟨[], titles⟩ job.1 none) nodes).mapFault
        .extraction).result := by
    rw [fetchPage, Outcome.andThen, hnodes]
  rw [hextract, Outcome.exists_mapFault_iff, Outcome.exists_forEach_iff]
  simp only [DocNode.exists_extract_iff]

theorem exists_collectFrom_iff [Interpreter] {fetch : Fetch} {titles : List String}
    {products : List Product}
    (hfetch : ∀ job ∈ Product.jobs products, ∃ nodes, (fetch job.2).result = .ok nodes) :
    (∃ rs, (collectFrom fetch ⟨[], titles⟩ products).result = .ok rs) ↔
      ∀ product v tree, Visited fetch titles products product v tree →
        ¬ v.IsExcessive ∧ ¬ v.LeavesTable := by
  have hpages : (∃ rs, (collectFrom fetch ⟨[], titles⟩ products).result = .ok rs) ↔
      ∀ job ∈ Product.jobs products, ∃ rs, (fetchPage fetch ⟨[], titles⟩ job).result = .ok rs := by
    rw [← Outcome.exists_forEach_iff]
    constructor
    · rintro ⟨rs, h⟩
      obtain ⟨all, hall, -⟩ := Outcome.andThen_result_eq_ok h
      exact ⟨all, hall⟩
    · rintro ⟨all, hall⟩
      exact ⟨(Reference.unique all).1, by rw [collectFrom, Outcome.andThen, hall]⟩
  rw [hpages]
  constructor
  · rintro hall product v tree ⟨job, hjob, -, nodes, hnodes, htree, hv⟩
    exact (exists_fetchPage_iff hnodes).1 (hall job hjob) tree htree v hv
  · intro hsafe job hjob
    obtain ⟨nodes, hnodes⟩ := hfetch job hjob
    apply (exists_fetchPage_iff hnodes).2
    intro n hn v hv
    exact hsafe job.1 v n ⟨job, hjob, rfl, nodes, hnodes, hn, hv⟩

/-- Without overrides a document is extracted exactly if no parameters block that is looked at is
excessive or leaves the table, and then every visit gives what it gives by itself.  Where all pages
can be fetched, the same decides whether products are collected. -/
theorem extraction_succeeds_iff [Interpreter] (titles : List String) (product : String)
    (owner : Option String) (n : DocNode) :
    ((∃ rs, (n.extract ⟨[], titles⟩ product owner).result = .ok rs) ↔
      ∀ v ∈ n.visits titles owner, ¬ v.IsExcessive ∧ ¬ v.LeavesTable)
    ∧ (∀ rs, (n.extract ⟨[], titles⟩ product owner).result = .ok rs →
      rs = (n.visits titles owner).flatMap (Visit.given titles product))
    ∧ ∀ fetch products,
      (∀ job ∈ Product.jobs products, ∃ nodes, (fetch job.2).result = .ok nodes) →
        ((∃ rs, (collectFrom fetch ⟨[], titles⟩ products).result = .ok rs) ↔
          ∀ product v tree, Visited fetch titles products product v tree →
            ¬ v.IsExcessive ∧ ¬ v.LeavesTable) :=
  ⟨DocNode.exists_extract_iff, fun _ h => DocNode.extract_eq_flatMap h,
    fun _ _ hfetch => exists_collectFrom_iff hfetch⟩

/-! ### A cell outside of its table -/

/-- A page of a type with one cell, by the key of the cell. -/
def cellPage (key : String) : DocNode :=
  ⟨"A Object", "a", "basic",
    "[block:parameters]\x7b\"data\": \x7b\"" ++ key ++ "\": \"id\"\x7d\x7d[/block]", "", none, []⟩

/-- Pages by the keys of their cells. -/
def cellFetch : Fetch := fun key => .done [cellPage key]

/-- A column that is counted too far to the left ends the extraction of its page and, with it, that
of the pages of other urls. -/
theorem cell_outside_refused :
    ((cellPage "0--4").extract ⟨[], []⟩ "p" none).result = .error (.table .columnOutOfRange)
    ∧ (collectFrom cellFetch ⟨[], []⟩ [⟨"p", ["0-0", "0--4"]⟩]).result =
      .error (.extraction (.table .columnOutOfRange)) :=
  ⟨Outcome.result_of_fault?_eq_some (by decide +kernel),
    Outcome.result_of_fault?_eq_some (by decide +kernel)⟩

/-- The other page is collected by itself. -/
theorem cell_inside_collected :
    (∀ job ∈ Product.jobs [⟨"p", ["0-0"]⟩], ∃ nodes, (cellFetch job.2).result = .ok nodes)
    ∧ ∃ rs, (collectFrom cellFetch ⟨[], []⟩ [⟨"p", ["0-0"]⟩]).result = .ok rs := by
  have hfetch : ∀ job ∈ Product.jobs [⟨"p", ["0-0"]⟩],
      ∃ nodes, (cellFetch job.2).result = .ok nodes := fun job _ => ⟨_, rfl⟩
  refine ⟨hfetch, ?_⟩
  obtain ⟨hpage, -, hproducts⟩ := extraction_succeeds_iff [] "p" none (cellPage "0-0")
  have hextract : ∃ rs, ((cellPage "0-0").extract ⟨[], []⟩ "p" none).result = .ok rs :=
    Outcome.exists_result_of_fault?_eq_none (by decide +kernel)
  apply (hproducts cellFetch _ hfetch).2
  rintro product v tree ⟨job, hjob, -, nodes, hnodes, htree, hv⟩
  simp only [Product.jobs, List.flatMap_cons, List.flatMap_nil, List.map_cons, List.map_nil,
    List.append_nil, List.mem_singleton] at hjob
  rw [hjob] at hnodes
  rw [← Except.ok.inj hnodes, List.mem_singleton] at htree
  rw [htree] at hv
  exact hpage.1 hextract v hv

end ClientScribe
