import ClientScribe.Proofs.Docs.Preorder
import ClientScribe.Proofs.Reference.Children
import ClientScribe.Proofs.Reference.Override

/-!
Ownership under overrides.  What a type page owns is given the slug of the page as its parent, while
an override may give the type another id: what it owned is then not found under it any more.
-/

namespace ClientScribe

/-- The visit to a page below an owner. -/
def DocNode.visit (titles : List String) (owner : Option String) (n : DocNode) : Visit :=
  ⟨{ n with title := Title.clean titles n.title }, owner⟩

theorem DocNode.visit_mem_visits (titles : List String) (owner : Option String) (n : DocNode) :
    n.visit titles owner ∈ n.visits titles owner := by
  obtain ⟨title, slug, tag, body, excerpt, endpoint, children⟩ := n
  rw [visits]
  exact List.mem_cons_self

theorem DocNode.mem_visitsOfAll {titles : List String} {owner : Option String} {v : Visit}
    {n : DocNode} (hv : v ∈ n.visits titles owner) {ns : List DocNode} (hn : n ∈ ns) :
    v ∈ visitsOfAll titles owner ns := by
  induction ns with
  | nil => exact absurd hn List.not_mem_nil
  | cons m ns ih =>
    rw [visitsOfAll]
    rcases List.mem_cons.1 hn with rfl | hn
    · exact List.mem_append_left _ hv
    · exact List.mem_append_right _ (ih hn)

/-- The pages below a type page are visited with it as their owner. -/
theorem DocNode.child_mem_visits {titles : List String} {c : DocNode} (n : DocNode) :
    ∀ (owner : Option String), ∀ v ∈ n.visits titles owner, v.topic = .typeDefinition →
      c ∈ v.page.children → c.visit titles (some v.page.slug) ∈ n.visits titles owner := by
  refine @DocNode.rec
    (fun n => ∀ owner, ∀ v ∈ n.visits titles owner, v.topic = .typeDefinition →
      c ∈ v.page.children → c.visit titles (some v.page.slug) ∈ n.visits titles owner)
    (fun ns => ∀ owner, ∀ v ∈ visitsOfAll titles owner ns, v.topic = .typeDefinition →
      c ∈ v.page.children → c.visit titles (some v.page.slug) ∈ visitsOfAll titles owner ns)
    ?_ ?_ ?_ n
  · intro title slug tag body excerpt endpoint children ih owner v hv htopic hc
    rw [visits] at hv ⊢
    rcases List.mem_cons.1 hv with rfl | hv
    · have htopic : Topic.of tag (Title.clean titles title) = .typeDefinition := htopic
      rw [if_pos htopic]
      exact List.mem_cons_of_mem _ (mem_visitsOfAll (c.visit_mem_visits titles (some slug)) hc)
    · split at hv
      · rename_i hpage
        rw [if_pos hpage]
        exact List.mem_cons_of_mem _ (ih (some slug) v hv htopic hc)
      · exact absurd hv List.not_mem_nil
  · intro owner v hv
    exact absurd hv List.not_mem_nil
  · intro m ms ihHead ihTail owner v hv htopic hc
    rw [visitsOfAll] at hv ⊢
    rcases List.mem_append.1 hv with hv | hv
    · exact List.mem_append_left _ (ihHead owner v hv htopic hc)
    · exact List.mem_append_right _ (ihTail owner v hv htopic hc)

/-- What a visit gives is, before its override, named by the slug of the page, and belongs to the
owner of the visit unless the page is that of a type. -/
theorem Visit.exists_overridden [Interpreter] {rules : ExtractionRules} {product : String}
    {v : Visit} {r : Reference} (h : (v.extract rules product).result = .ok (some r)) :
    ∃ own : Reference, own.override rules.overrides = .ok r ∧ own.id = v.page.slug
      ∧ own.parent = if v.topic = .typeDefinition then none else v.owner := by
  obtain ⟨own, hown, -, -, hid, ⟨htopic, hparent, -⟩ | ⟨htopic, -, owner, howner, hparent⟩⟩ :=
    exists_own h
  · exact ⟨own, hown, hid, by rw [if_pos htopic, hparent]⟩
  · exact ⟨own, hown, hid, by rw [if_neg htopic, hparent, howner]⟩

/-- What the pieces of work gave is gathered. -/
theorem Outcome.mem_of_forEach {ε α β : Type} {work : α → Outcome ε (List β)} {as : List α}
    {bs : List β} (h : (forEach work as).result = .ok bs) {a : α} (ha : a ∈ as) {out : List β}
    (hout : (work a).result = .ok out) {b : β} (hb : b ∈ out) : b ∈ bs := by
  induction as generalizing bs with
  | nil => exact absurd ha List.not_mem_nil
  | cons a' as ih =>
    obtain ⟨first, hfirst, hrest⟩ := andThen_result_eq_ok h
    obtain ⟨others, hothers, rfl⟩ := map_result_eq_ok hrest
    rw [List.mem_append]
    rcases List.mem_cons.1 ha with rfl | ha
    · rw [hout, Except.ok.injEq] at hfirst
      exact .inl (hfirst ▸ hb)
    · exact .inr (ih hothers ha)

theorem DocNode.mem_of_extract [Interpreter] {rules : ExtractionRules} {product : String}
    {owner : Option String} {n : DocNode} {rs : List Reference}
    (h : (n.extract rules product owner).result = .ok rs) {v : Visit}
    (hv : v ∈ n.visits rules.products owner) {r : Reference}
    (hr : (v.extract rules product).result = .ok (some r)) : r ∈ rs := by
  have hout : ((v.extract rules product).map Option.toList).result = .ok [r] := by
    rw [Outcome.map, hr]
    rfl
  exact Outcome.mem_of_forEach h hv hout List.mem_cons_self

section

variable {β : Type} [View β]

/-- What a child of a type page gives belongs to the type exactly if the child is no type page
itself and the type has the slug of its page as its id, which only an override changes; and then it
is found under the type. -/
theorem ownership_kept_iff [Interpreter] (fixes : List (String × List (String × β)))
    (titles : List String) (product : String) (owner : Option String) (n : DocNode)
    (rs : List Reference)
    (h : (n.extract ⟨.ofMembers fixes, titles⟩ product owner).result = .ok rs) (v : Visit)
    (hv : v ∈ n.visits titles owner) (htopic : v.topic = .typeDefinition) (t : Reference)
    (ht : (v.extract ⟨.ofMembers fixes, titles⟩ product).result = .ok (some t)) (c : DocNode)
    (hc : c ∈ v.page.children) (u : Reference)
    (hu : ((c.visit titles (some v.page.slug)).extract ⟨.ofMembers fixes, titles⟩ product).result =
      .ok (some u))
    (hparent : isSet fixes c.slug "parent" = false) :
    t ∈ rs ∧ u ∈ rs
    ∧ (u.parent = some t.id ↔ c.topic titles ≠ .typeDefinition ∧ t.id = v.page.slug)
    ∧ (isSet fixes v.page.slug "id" = false → t.id = v.page.slug)
    ∧ (u.parent = some t.id →
      (∀ q, u.request? = some q → q ∈ (Reference.children (some t.id) rs).requests)
      ∧ (u.isEnum = true → (Reference.children (some t.id) rs).enum.isSome = true)) := by
  have hmem := DocNode.mem_of_extract h (DocNode.child_mem_visits n owner v hv htopic hc) hu
  obtain ⟨own, hown, hid, -⟩ := Visit.exists_overridden ht
  obtain ⟨own', hown', hid', hparent'⟩ := Visit.exists_overridden hu
  have hkept : u.parent = if c.topic titles = .typeDefinition then none else some v.page.slug := by
    have hset : isSet fixes own'.id "parent" = false := by rwa [hid']
    rw [(Reference.keeps_of_override hown').parent hset, hparent']
    rfl
  refine ⟨DocNode.mem_of_extract h hv ht, hmem, ?_, ?_, ?_⟩
  · rw [hkept]
    by_cases hchild : c.topic titles = .typeDefinition
    · simp [hchild]
    · rw [if_neg hchild, Option.some.injEq]
      exact ⟨fun hid => ⟨hchild, hid.symm⟩, fun hid => hid.2.symm⟩
  · intro hset
    rw [← hid] at hset ⊢
    exact (Reference.keeps_of_override hown).id hset
  · intro howned
    exact ⟨fun q hq => Reference.mem_requests_children hmem howned hq,
      fun henum => Reference.isSome_enum_children hmem howned henum⟩

end

/-! ### A type with another id -/

/-- A page of errors. -/
def ownedErrors : DocNode := ⟨"A Errors", "e", "basic", "", "", none, []⟩

/-- The page of the type that owns them. -/
def owningType : DocNode :=
  ⟨"A Object", "a", "basic", "[block:parameters]\x7b\x7d[/block]", "", none, [ownedErrors]⟩

/-- An override that sets one member of the type. -/
def typeFix (key : String) : List (String × List (String × Json)) := [("a", [(key, .str "z")])]

/-- Extraction under that override. -/
def typeRules (key : String) : ExtractionRules := ⟨.ofMembers (typeFix key), []⟩

theorem Visit.exists_of_any [Interpreter] {rules : ExtractionRules} {product : String} {v : Visit}
    {test : Reference → Bool}
    (h : ((v.extract rules product).result.toOption.any fun found => found.any test) = true) :
    ∃ r, (v.extract rules product).result = .ok (some r) ∧ test r = true := by
  obtain ⟨found, hfound, hp⟩ := Outcome.exists_of_any h
  obtain ⟨r, rfl, hr⟩ := (Option.any_eq_true test found).1 hp
  exact ⟨r, hfound, hr⟩

/-- With another id the type has lost its errors: they still belong to the slug of its page. -/
theorem renumbered_owner_lost : ∃ rs t u,
    (owningType.extract (typeRules "id") "p" none).result = .ok rs
    ∧ owningType.visit [] none ∈ owningType.visits [] none
    ∧ (owningType.visit [] none).topic = .typeDefinition
    ∧ ((owningType.visit [] none).extract (typeRules "id") "p").result = .ok (some t)
    ∧ ownedErrors ∈ owningType.children
    ∧ ((ownedErrors.visit [] (some "a")).extract (typeRules "id") "p").result = .ok (some u)
    ∧ isSet (typeFix "id") "e" "parent" = false
    ∧ u.isEnum = true ∧ u.parent = some "a" ∧ t.id = "z"
    ∧ (Reference.children (some t.id) rs).isEmpty = true := by
  have hall : ((owningType.extract (typeRules "id") "p" none).result.toOption.any fun rs =>
      (Reference.children (some "z") rs).isEmpty) = true := by decide +kernel
  have htype : (((owningType.visit [] none).extract (typeRules "id") "p").result.toOption.any
      fun found => found.any fun t => t.id == "z") = true := by decide +kernel
  have herrors : (((ownedErrors.visit [] (some "a")).extract (typeRules "id")
      "p").result.toOption.any fun found =>
        found.any fun u => u.isEnum && u.parent == some "a") = true := by decide +kernel
  obtain ⟨rs, hextract, hempty⟩ := Outcome.exists_of_any hall
  obtain ⟨t, ht, hid⟩ := Visit.exists_of_any htype
  obtain ⟨u, hu, hchild⟩ := Visit.exists_of_any herrors
  rw [Bool.and_eq_true, beq_iff_eq] at hchild
  have hid := eq_of_beq hid
  exact ⟨rs, t, u, hextract, owningType.visit_mem_visits [] none, by decide +kernel, ht,
    List.mem_singleton_self _, hu, by decide, hchild.1, hchild.2, hid, by rwa [hid]⟩

/-- With another name it keeps them. -/
theorem renamed_owner_kept : ∃ rs t u,
    (owningType.extract (typeRules "name") "p" none).result = .ok rs
    ∧ ((owningType.visit [] none).extract (typeRules "name") "p").result = .ok (some t)
    ∧ ((ownedErrors.visit [] (some "a")).extract (typeRules "name") "p").result = .ok (some u)
    ∧ t.name = "z" ∧ u.parent = some t.id
    ∧ (Reference.children (some t.id) rs).enum.isSome = true := by
  have hall : ((owningType.extract (typeRules "name") "p" none).result.toOption.any fun _ =>
      true) = true := by decide +kernel
  have htype : (((owningType.visit [] none).extract (typeRules "name") "p").result.toOption.any
      fun found => found.any fun t => t.name == "z") = true := by decide +kernel
  have herrors : (((ownedErrors.visit [] (some "a")).extract (typeRules "name")
      "p").result.toOption.any fun found => found.any Reference.isEnum) = true := by decide +kernel
  obtain ⟨rs, hextract, -⟩ := Outcome.exists_of_any hall
  obtain ⟨t, ht, hname⟩ := Visit.exists_of_any htype
  obtain ⟨u, hu, henum⟩ := Visit.exists_of_any herrors
  obtain ⟨-, -, hparent, hid, hfound⟩ := ownership_kept_iff (typeFix "name") [] "p" none owningType
    rs hextract (owningType.visit [] none) (owningType.visit_mem_visits [] none) (by decide +kernel)
    t ht ownedErrors (List.mem_singleton_self _) u hu (by decide)
  have howned := hparent.2 ⟨by decide +kernel, hid (by decide)⟩
  exact ⟨rs, t, u, hextract, ht, hu, eq_of_beq hname, howned, (hfound howned).2 henum⟩

end ClientScribe
