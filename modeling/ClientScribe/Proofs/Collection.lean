import ClientScribe.Proofs.Docs.Success
import ClientScribe.Reference.Graph
import Mathlib.Data.List.Forall2

/-!
Collecting piece by piece.  What two lists of products give is what the first gives, followed by
what is new in the second.  A page that cannot be fetched or carries no documentation counts for
nothing; only a page that cannot be looked at ends the collection.
-/

namespace ClientScribe

/-! ### The first reference of every id -/

namespace Reference

variable {seen seen' : List String} {rs ss : List Reference}

theorem uniqueFrom_of_mem {r : Reference} (h : r.id ∈ seen) :
    (uniqueFrom seen (r :: rs)).1 = (uniqueFrom seen rs).1 := by
  rw [uniqueFrom, if_pos (List.contains_iff_mem.2 h)]

theorem uniqueFrom_of_not_mem {r : Reference} (h : r.id ∉ seen) :
    (uniqueFrom seen (r :: rs)).1 = r :: (uniqueFrom (r.id :: seen) rs).1 := by
  rw [uniqueFrom, if_neg (mt List.contains_iff_mem.1 h)]

/-- Only which ids are taken matters. -/
theorem uniqueFrom_congr (h : ∀ id, id ∈ seen ↔ id ∈ seen') :
    (uniqueFrom seen rs).1 = (uniqueFrom seen' rs).1 := by
  induction rs generalizing seen seen' with
  | nil => rfl
  | cons r rs ih =>
    by_cases hr : r.id ∈ seen
    · rw [uniqueFrom_of_mem hr, uniqueFrom_of_mem ((h r.id).1 hr), ih h]
    · rw [uniqueFrom_of_not_mem hr, uniqueFrom_of_not_mem (mt (h r.id).2 hr)]
      congr 1
      apply ih
      intro id
      rw [List.mem_cons, List.mem_cons, h id]

/-- More taken ids leave out the references that have them. -/
theorem uniqueFrom_append_seen :
    (uniqueFrom (seen ++ seen') rs).1 =
      (uniqueFrom seen' rs).1.filter fun r => !seen.contains r.id := by
  induction rs generalizing seen' with
  | nil => rfl
  | cons r rs ih =>
    have hmore : (uniqueFrom (r.id :: (seen ++ seen')) rs).1 =
        (uniqueFrom (r.id :: seen') rs).1.filter fun r => !seen.contains r.id := by
      rw [← ih]
      apply uniqueFrom_congr
      intro id
      simp only [List.mem_cons, List.mem_append]
      exact or_left_comm
    by_cases hr : r.id ∈ seen'
    · rw [uniqueFrom_of_mem (List.mem_append_right _ hr), uniqueFrom_of_mem hr, ih]
    · rw [uniqueFrom_of_not_mem hr, List.filter_cons, ← hmore]
      by_cases hold : r.id ∈ seen
      · rw [uniqueFrom_of_mem (List.mem_append_left _ hold), if_neg (by simpa using hold)]
        apply uniqueFrom_congr
        intro id
        simp only [List.mem_cons, List.mem_append]
        grind
      · rw [uniqueFrom_of_not_mem (by simp [hr, hold]), if_pos (by simpa using hold)]

theorem uniqueFrom_append :
    (uniqueFrom seen (rs ++ ss)).1 =
      (uniqueFrom seen rs).1 ++ (uniqueFrom (rs.map Reference.id ++ seen) ss).1 := by
  induction rs generalizing seen with
  | nil => rfl
  | cons r rs ih =>
    have hseen (id : String) : id ∈ rs.map Reference.id ++ r.id :: seen ↔
        id ∈ (r :: rs).map Reference.id ++ seen := by
      simp only [List.map_cons, List.cons_append, List.mem_append, List.mem_cons]
      exact or_left_comm
    rw [← uniqueFrom_congr hseen]
    by_cases hr : r.id ∈ seen
    · rw [List.cons_append, uniqueFrom_of_mem hr, uniqueFrom_of_mem hr, ih]
      congr 1
      apply uniqueFrom_congr
      intro id
      simp only [List.mem_append, List.mem_cons]
      grind
    · rw [List.cons_append, uniqueFrom_of_not_mem hr, uniqueFrom_of_not_mem hr, ih,
        List.cons_append]

/-- The first reference of an id stays, unless the id is taken. -/
theorem find?_uniqueFrom (id : String) :
    Reference.find? id (uniqueFrom seen rs).1 =
      if id ∈ seen then none else Reference.find? id rs := by
  induction rs generalizing seen with
  | nil => simp [uniqueFrom, Reference.find?]
  | cons r rs ih =>
    by_cases hr : r.id ∈ seen
    · rw [uniqueFrom_of_mem hr, ih]
      by_cases hid : r.id = id
      · rw [if_pos (hid ▸ hr), if_pos (hid ▸ hr)]
      · simp [Reference.find?, hid]
    · rw [uniqueFrom_of_not_mem hr]
      by_cases hid : r.id = id
      · rw [← hid, if_neg hr]
        simp [Reference.find?]
      · have hcons (rs : List Reference) :
            Reference.find? id (r :: rs) = Reference.find? id rs := by
          simp [Reference.find?, hid]
        rw [hcons, hcons, ih]
        simp [Ne.symm hid]

theorem mem_ids_unique {id : String} :
    id ∈ (unique rs).1.map Reference.id ↔ id ∈ rs.map Reference.id := by
  have hfound (rs : List Reference) :
      id ∈ rs.map Reference.id ↔ (Reference.find? id rs).isSome = true := by
    simp [Reference.find?, List.find?_isSome]
  rw [hfound, hfound, unique, find?_uniqueFrom, if_neg List.not_mem_nil]

theorem nodup_ids_uniqueFrom : ((uniqueFrom seen rs).1.map Reference.id).Nodup := by
  induction rs generalizing seen with
  | nil => exact List.nodup_nil
  | cons r rs ih =>
    by_cases hr : r.id ∈ seen
    · rw [uniqueFrom_of_mem hr]
      exact ih
    · rw [uniqueFrom_of_not_mem hr, List.map_cons, List.nodup_cons]
      refine ⟨?_, ih⟩
      intro hmem
      obtain ⟨s, hs, hid⟩ := List.mem_map.1 hmem
      have hnone : Reference.find? r.id (uniqueFrom (r.id :: seen) rs).1 = none := by
        rw [find?_uniqueFrom, if_pos List.mem_cons_self]
      exact List.find?_eq_none.1 hnone s hs (beq_iff_eq.2 hid)

/-- Of two lists the second adds what has a new id. -/
theorem unique_append :
    (unique (rs ++ ss)).1 =
      (unique rs).1 ++
        (unique ss).1.filter fun s => !((unique rs).1.map Reference.id).contains s.id := by
  have hids : (fun s : Reference => !(rs.map Reference.id).contains s.id) =
      fun s => !((unique rs).1.map Reference.id).contains s.id := by
    funext s
    rw [Bool.eq_iff_iff]
    simp only [Bool.not_eq_true', List.contains_eq_mem, decide_eq_false_iff_not, mem_ids_unique]
  rw [unique, uniqueFrom_append, uniqueFrom_append_seen, hids]
  rfl

end Reference

/-! ### Work on many items -/

namespace Outcome

variable {ε ε' α β : Type}

theorem andThen_result (o : Outcome ε α) (next : α → Outcome ε β) :
    (o.andThen next).result = o.result.bind fun a => (next a).result := by
  obtain ⟨notices, result⟩ := o
  cases result <;> rfl

theorem forEach_cons_result (work : α → Outcome ε (List β)) (a : α) (as : List α) :
    (forEach work (a :: as)).result = do
      let out ← (work a).result
      let rest ← (forEach work as).result
      return out ++ rest := by
  rw [forEach, andThen_result]
  rfl

/-- Work on two lists of items, one behind the other. -/
theorem forEach_append_result (work : α → Outcome ε (List β)) (as bs : List α) :
    (forEach work (as ++ bs)).result = do
      let first ← (forEach work as).result
      let second ← (forEach work bs).result
      return first ++ second := by
  induction as with
  | nil =>
    rw [List.nil_append]
    cases (forEach work bs).result <;> rfl
  | cons a as ih =>
    rw [List.cons_append, forEach_cons_result, forEach_cons_result, ih]
    cases (work a).result with
    | error fault => rfl
    | ok out =>
      cases (forEach work as).result with
      | error fault => rfl
      | ok first =>
        cases (forEach work bs).result with
        | error fault => rfl
        | ok second =>
          change Except.ok (out ++ (first ++ second)) = Except.ok (out ++ first ++ second)
          rw [List.append_assoc]

/-- What is gathered is what the pieces of work gave, in order. -/
theorem exists_pieces_of_forEach {work : α → Outcome ε (List β)} {as : List α} {bs : List β}
    (h : (forEach work as).result = .ok bs) :
    ∃ pieces, List.Forall₂ (fun a out => (work a).result = .ok out) as pieces
      ∧ bs = pieces.flatten := by
  induction as generalizing bs with
  | nil => exact ⟨[], .nil, (Except.ok.inj h).symm⟩
  | cons a as ih =>
    obtain ⟨out, hout, hrest⟩ := andThen_result_eq_ok h
    obtain ⟨others, hothers, rfl⟩ := map_result_eq_ok hrest
    obtain ⟨pieces, hpieces, rfl⟩ := ih hothers
    exact ⟨out :: pieces, .cons hout hpieces, rfl⟩

/-- What ends the work ended one of its pieces. -/
theorem exists_of_forEach_eq_error {work : α → Outcome ε (List β)} {as : List α} {fault : ε}
    (h : (forEach work as).result = .error fault) : ∃ a ∈ as, (work a).result = .error fault := by
  induction as with
  | nil => exact absurd h (by simp [forEach, done])
  | cons a as ih =>
    rw [forEach_cons_result] at h
    cases hout : (work a).result with
    | error fault' =>
      rw [hout] at h
      exact ⟨a, List.mem_cons_self, hout.trans h⟩
    | ok out =>
      cases hothers : (forEach work as).result with
      | error fault' =>
        rw [hout, hothers] at h
        obtain ⟨b, hb, hwork⟩ := ih (hothers.trans h)
        exact ⟨b, List.mem_cons_of_mem a hb, hwork⟩
      | ok others =>
        rw [hout, hothers] at h
        exact absurd h (by simp [bind, Except.bind, pure, Except.pure])

/-- Items whose work gives nothing, or a fault that does not come up, may be left out. -/
theorem forEach_filter_result (IsBad : ε → Prop) {work : α → Outcome ε (List β)}
    {keep : α → Bool} {as : List α}
    (hdrop : ∀ a ∈ as, keep a = false → (work a).result = .ok [] ∨
      ∃ fault, IsBad fault ∧ (work a).result = .error fault)
    (hgood : ∀ fault, IsBad fault → (forEach work as).result ≠ .error fault) :
    (forEach work (as.filter keep)).result = (forEach work as).result := by
  induction as with
  | nil => rfl
  | cons a as ih =>
    rw [List.forall_mem_cons] at hdrop
    have htail (out : List β) (hout : (work a).result = .ok out) :
        (forEach work (as.filter keep)).result = (forEach work as).result := by
      apply ih hdrop.2
      intro fault hbad hfault
      apply hgood fault hbad
      rw [forEach_cons_result, hout, hfault]
      rfl
    rw [List.filter_cons]
    cases hkeep : keep a with
    | true =>
      rw [if_pos rfl, forEach_cons_result, forEach_cons_result]
      cases hout : (work a).result with
      | error fault => rfl
      | ok out => rw [htail out hout]
    | false =>
      rw [if_neg Bool.false_ne_true, forEach_cons_result]
      rcases hdrop.1 hkeep with hout | ⟨fault, hbad, hfault⟩
      · rw [hout, htail [] hout]
        cases (forEach work as).result <;> rfl
      · refine absurd ?_ (hgood fault hbad)
        rw [forEach_cons_result, hfault]
        rfl

end Outcome

/-! ### Pages that cannot be read -/

/-- Nothing is at a url: there is no answer, the answer is an error, or the page in it carries no
documentation. -/
def Web.isMissing [Interpreter] (web : Web) (url : String) : Bool :=
  match web url with
  | .error _ => true
  | .ok r =>
    (400 ≤ r.status && r.status < 600) ||
      match readPage r.body with
      | .ok (.error _) => true
      | _ => false

/-- The page at a url cannot be looked at. -/
def Web.isRefused [Interpreter] (web : Web) (url : String) : Bool :=
  match web url with
  | .error _ => false
  | .ok r =>
    !(400 ≤ r.status && r.status < 600) &&
      match readPage r.body with
      | .error _ => true
      | _ => false

/-- There is no documentation to be had at a url, for one reason or the other. -/
def Web.fails [Interpreter] (web : Web) (url : String) : Bool :=
  web.isMissing url || web.isRefused url

/-- The product without the pages at some urls. -/
def Product.without (gone : String → Bool) (p : Product) : Product :=
  { p with urls := p.urls.filter fun url => !gone url }

section

variable {web : Web} {rules : ExtractionRules}

theorem jobs_append (ps qs : List Product) :
    Product.jobs (ps ++ qs) = Product.jobs ps ++ Product.jobs qs :=
  List.flatMap_append

theorem jobs_without (gone : String → Bool) (ps : List Product) :
    Product.jobs (ps.map (Product.without gone)) =
      (Product.jobs ps).filter fun job => !gone job.2 := by
  rw [Product.jobs, Product.jobs, List.flatMap_map, List.filter_flatMap]
  congr 1
  funext p
  rw [Product.without, List.filter_map]
  rfl

/-- The body of an answer that is an error is not looked at. -/
theorem page_cases (r : Response) (url : String) :
    (∃ why, r.page url = .error why) ∧ (400 ≤ r.status && r.status < 600) = true
    ∨ r.page url = .ok r.body ∧ (400 ≤ r.status && r.status < 600) = false := by
  rw [Response.page]
  split
  · refine .inl ⟨⟨_, rfl⟩, ?_⟩
    simp_all
    omega
  · split
    · refine .inl ⟨⟨_, rfl⟩, ?_⟩
      simp_all
      omega
    · refine .inr ⟨rfl, ?_⟩
      simp_all

/-- What is at a url: nothing, a page that cannot be looked at, or a page with nodes. -/
theorem loadPage_cases [Interpreter] (web : Web) (url : String) :
    web.isMissing url = true ∧ web.isRefused url = false ∧ (loadPage web url).result = .ok []
    ∨ web.isMissing url = false ∧ web.isRefused url = true
      ∧ (∃ crash, (loadPage web url).result = .error (.page crash))
    ∨ web.isMissing url = false ∧ web.isRefused url = false
      ∧ ∃ nodes, (loadPage web url).result = .ok nodes := by
  rw [Web.isMissing, Web.isRefused, loadPage]
  cases web url with
  | error why => exact .inl ⟨rfl, rfl, rfl⟩
  | ok r =>
    rcases page_cases r url with ⟨⟨why, hpage⟩, hstatus⟩ | ⟨hpage, hstatus⟩
    · simp [Except.bind, hpage, hstatus]
    · simp only [Except.bind, hpage, hstatus, Bool.false_or, Bool.not_false, Bool.true_and]
      cases readPage r.body with
      | error crash => exact .inr (.inl ⟨rfl, rfl, crash, rfl⟩)
      | ok found =>
        cases found with
        | error fault => exact .inl ⟨rfl, rfl, rfl⟩
        | ok found => exact .inr (.inr ⟨rfl, rfl, found.nodes, rfl⟩)

theorem collectPage_of_isMissing [Interpreter] {job : String × String}
    (h : web.isMissing job.2 = true) :
    (collectPage web rules job).result = .ok [] := by
  rcases loadPage_cases web job.2 with ⟨-, -, hload⟩ | ⟨hnot, -⟩ | ⟨hnot, -⟩
  · rw [collectPage, Outcome.andThen_result, hload]
    rfl
  · exact absurd h (by simp [hnot])
  · exact absurd h (by simp [hnot])

/-- Only a page that cannot be looked at ends the collection before anything is extracted. -/
theorem collectPage_eq_crash_iff [Interpreter] {job : String × String} :
    (∃ crash, (collectPage web rules job).result = .error (.page crash)) ↔
      web.isRefused job.2 = true := by
  rw [collectPage, Outcome.andThen_result]
  rcases loadPage_cases web job.2 with ⟨-, hnot, hload⟩ | ⟨-, hrefused, crash, hload⟩ |
    ⟨-, hnot, nodes, hload⟩
  · rw [hload, hnot]
    refine ⟨?_, fun h => absurd h Bool.false_ne_true⟩
    rintro ⟨crash, hcrash⟩
    simp [Except.bind, Outcome.forEach, Outcome.done, Outcome.mapFault, Except.mapError] at hcrash
  · rw [hload, hrefused]
    exact ⟨fun _ => rfl, fun _ => ⟨crash, rfl⟩⟩
  · rw [hload, hnot]
    refine ⟨?_, fun h => absurd h Bool.false_ne_true⟩
    rintro ⟨crash, hcrash⟩
    simp only [Except.bind, Outcome.mapFault] at hcrash
    cases hresult : (Outcome.forEach (fun n => n.extract rules job.1 none) nodes).result <;>
      simp [hresult, Except.mapError] at hcrash

theorem collect_result [Interpreter] (ps : List Product) :
    (collect web rules ps).result =
      (Outcome.forEach (collectPage web rules) (Product.jobs ps)).result.map fun rs =>
        (Reference.unique rs).1 := by
  rw [collect, Outcome.andThen_result]
  cases (Outcome.forEach (collectPage web rules) (Product.jobs ps)).result <;> rfl

theorem collect_eq_error_iff [Interpreter] {ps : List Product} {fault : CollectionFault} :
    (collect web rules ps).result = .error fault ↔
      (Outcome.forEach (collectPage web rules) (Product.jobs ps)).result = .error fault := by
  rw [collect_result]
  cases (Outcome.forEach (collectPage web rules) (Product.jobs ps)).result <;>
    simp [Except.map]

/-- Where nothing is, nothing is collected. -/
theorem collect_without_missing [Interpreter] (ps : List Product) :
    (collect web rules (ps.map (Product.without web.isMissing))).result =
      (collect web rules ps).result := by
  rw [collect_result, collect_result, jobs_without]
  rw [Outcome.forEach_filter_result fun _ => False]
  · intro job _ hmissing
    exact .inl (collectPage_of_isMissing (by simpa using hmissing))
  · exact fun _ => False.elim

/-- Without the pages that cannot be looked at either, the same is collected unless one of them ends
the collection. -/
theorem collect_without_failing_iff [Interpreter] {ps : List Product} :
    (collect web rules (ps.map (Product.without web.fails))).result =
        (collect web rules ps).result ↔
      ∀ crash, (collect web rules ps).result ≠ .error (.page crash) := by
  constructor
  · intro hsame crash hcrash
    rw [hcrash, collect_eq_error_iff, jobs_without] at hsame
    obtain ⟨job, hjob, hpage⟩ := Outcome.exists_of_forEach_eq_error hsame
    have hrefused := collectPage_eq_crash_iff.1 ⟨crash, hpage⟩
    have hkept := (List.mem_filter.1 hjob).2
    simp [Web.fails, hrefused] at hkept
  · intro hgood
    rw [collect_result, collect_result, jobs_without]
    rw [Outcome.forEach_filter_result fun fault => ∃ crash, fault = .page crash]
    · intro job _ hfails
      have hfails : web.isMissing job.2 = true ∨ web.isRefused job.2 = true := by
        simpa [Web.fails, imp_iff_not_or] using hfails
      rcases hfails with hmissing | hrefused
      · exact .inl (collectPage_of_isMissing hmissing)
      · obtain ⟨crash, hpage⟩ :
            ∃ crash, (collectPage web rules job).result = .error (.page crash) :=
          collectPage_eq_crash_iff.2 hrefused
        exact .inr ⟨_, ⟨crash, rfl⟩, hpage⟩
    · rintro fault ⟨crash, rfl⟩ hcrash
      exact hgood crash (collect_eq_error_iff.2 hcrash)

/-- The second products add what has a new id. -/
theorem collect_append_result [Interpreter] (ps qs : List Product) :
    (collect web rules (ps ++ qs)).result = do
      let first ← (collect web rules ps).result
      let second ← (collect web rules qs).result
      return first ++ second.filter fun r => !(first.map Reference.id).contains r.id := by
  rw [collect_result, collect_result, collect_result, jobs_append, Outcome.forEach_append_result]
  cases (Outcome.forEach (collectPage web rules) (Product.jobs ps)).result with
  | error fault => rfl
  | ok first =>
    cases (Outcome.forEach (collectPage web rules) (Product.jobs qs)).result with
    | error fault => rfl
    | ok second =>
      change Except.ok (Reference.unique (first ++ second)).1 = _
      rw [Reference.unique_append]
      rfl

theorem exists_collect_iff [Interpreter] {ps : List Product} :
    (∃ rs, (collect web rules ps).result = .ok rs) ↔
      ∀ job ∈ Product.jobs ps, ∃ out, (collectPage web rules job).result = .ok out := by
  rw [← Outcome.exists_forEach_iff, collect_result]
  cases (Outcome.forEach (collectPage web rules) (Product.jobs ps)).result <;> simp [Except.map]

/-- Ids are distinct, and an id that several pages give is that of the first reference. -/
theorem collect_first [Interpreter] {ps : List Product} {rs : List Reference}
    (h : (collect web rules ps).result = .ok rs) :
    (rs.map Reference.id).Nodup ∧ ∃ pages,
      List.Forall₂ (fun job out => (collectPage web rules job).result = .ok out)
        (Product.jobs ps) pages
      ∧ ∀ id, Reference.find? id rs = Reference.find? id pages.flatten := by
  obtain ⟨all, hall, hunique⟩ := Outcome.andThen_result_eq_ok h
  have hunique : (Reference.unique all).1 = rs := Except.ok.inj hunique
  obtain ⟨pages, hpages, rfl⟩ := Outcome.exists_pieces_of_forEach hall
  rw [← hunique]
  refine ⟨Reference.nodup_ids_uniqueFrom, pages, hpages, fun id => ?_⟩
  rw [Reference.unique, Reference.find?_uniqueFrom, if_neg List.not_mem_nil]

end

/-- Collecting is compositional: two lists of products give, or fail with, what the first gives and
then what is new in the second.  It succeeds exactly if every page does, and keeps the first
reference of every id.  Leaving out the pages that cannot be read changes nothing exactly if none
of them ends the collection because it cannot even be looked at. -/
theorem collect_compositional [Interpreter] (web : Web) (rules : ExtractionRules) :
    (∀ ps qs, (collect web rules (ps ++ qs)).result = do
      let first ← (collect web rules ps).result
      let second ← (collect web rules qs).result
      return first ++ second.filter fun r => !(first.map Reference.id).contains r.id)
    ∧ (∀ ps, (∃ rs, (collect web rules ps).result = .ok rs) ↔
      ∀ job ∈ Product.jobs ps, ∃ out, (collectPage web rules job).result = .ok out)
    ∧ (∀ ps rs, (collect web rules ps).result = .ok rs →
      (rs.map Reference.id).Nodup ∧ ∃ pages,
        List.Forall₂ (fun job out => (collectPage web rules job).result = .ok out)
          (Product.jobs ps) pages
        ∧ ∀ id, Reference.find? id rs = Reference.find? id pages.flatten)
    ∧ (∀ ps, (collect web rules (ps.map (Product.without web.isMissing))).result =
      (collect web rules ps).result)
    ∧ ∀ ps, (collect web rules (ps.map (Product.without web.fails))).result =
        (collect web rules ps).result ↔
      ∀ crash, (collect web rules ps).result ≠ .error (.page crash) :=
  ⟨collect_append_result, fun _ => exists_collect_iff, fun _ _ h => collect_first h,
    collect_without_missing, fun _ => collect_without_failing_iff⟩

/-! ### A page that is refused as a whole -/

/-- A page with the documentation of one type. -/
def typeHtml : String :=
  "<p id=readme-data-docs data-json='[\x7b\"title\":\"A Object\",\"slug\":\"a\",\"type\":\"basic\","
    ++ "\"body\":\"[block:parameters]\x7b\x7d[/block]\"\x7d]'>"

/-- That page, and elsewhere a page with a marked section of an unknown keyword. -/
def brokenWeb : Web := fun url => .ok ⟨200, "OK", if url = "u" then typeHtml else "<![foo]>"⟩

def soundProducts : List Product := [⟨"p", ["u"]⟩]

def brokenProducts : List Product := [⟨"q", ["v"]⟩]

theorem collect_soundProducts : ∃ rs,
    (collect brokenWeb ⟨[], []⟩ soundProducts).result = .ok rs ∧ rs.map Reference.id = ["a"] := by
  have hfound : ((collect brokenWeb ⟨[], []⟩ soundProducts).result.toOption.any
      fun rs => rs.map Reference.id == ["a"]) = true := by
    decide +kernel
  obtain ⟨rs, hcollect, hids⟩ := Outcome.exists_of_any hfound
  exact ⟨rs, hcollect, eq_of_beq hids⟩

/-- The second page cannot be looked at and ends the collection, and without it the first one is
collected. -/
theorem refused_page_ends_collection :
    brokenWeb.fails "v" = true
    ∧ (collect brokenWeb ⟨[], []⟩ (soundProducts ++ brokenProducts)).result =
      .error (.page (.markup (.unknownKeyword "foo")))
    ∧ (∃ rs, (collect brokenWeb ⟨[], []⟩ soundProducts).result = .ok rs
      ∧ rs.map Reference.id = ["a"])
    ∧ (collect brokenWeb ⟨[], []⟩
        ((soundProducts ++ brokenProducts).map (Product.without brokenWeb.fails))).result ≠
      (collect brokenWeb ⟨[], []⟩ (soundProducts ++ brokenProducts)).result := by
  have hbroken : (collect brokenWeb ⟨[], []⟩ brokenProducts).result =
      .error (.page (.markup (.unknownKeyword "foo"))) :=
    Outcome.result_of_fault?_eq_some (by decide)
  obtain ⟨rs, hsound, hids⟩ := collect_soundProducts
  have hboth : (collect brokenWeb ⟨[], []⟩ (soundProducts ++ brokenProducts)).result =
      .error (.page (.markup (.unknownKeyword "foo"))) := by
    rw [collect_append_result, hsound, hbroken]
    rfl
  refine ⟨by decide, hboth, ⟨rs, hsound, hids⟩, ?_⟩
  intro hsame
  exact collect_without_failing_iff.1 hsame _ hboth

/-- The first page by itself is collected, also after the pages that fail are left out. -/
theorem sound_page_collected :
    (∃ rs, (collect brokenWeb ⟨[], []⟩ soundProducts).result = .ok rs
      ∧ (rs.map Reference.id).Nodup)
    ∧ (collect brokenWeb ⟨[], []⟩ (soundProducts.map (Product.without brokenWeb.fails))).result =
      (collect brokenWeb ⟨[], []⟩ soundProducts).result := by
  obtain ⟨-, -, hfirst, -, hfailing⟩ := collect_compositional brokenWeb ⟨[], []⟩
  obtain ⟨rs, hsound, -⟩ := collect_soundProducts
  refine ⟨⟨rs, hsound, (hfirst _ rs hsound).1⟩, (hfailing _).2 ?_⟩
  intro crash hcrash
  rw [hsound] at hcrash
  exact absurd hcrash (by simp)

end ClientScribe
