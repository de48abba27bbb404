import ClientScribe.Proofs.Client.Bindings
import Mathlib.Data.List.Perm.Subperm

/-!
What a file depends on.  The file of a reference tells of other references only where those that its
fields point to are and what they are called, and an API module only what the type owns; so files
stay as they are when references change places or others come along.
-/

namespace ClientScribe

/-! ### Pointing -/

/-- An id stands anywhere in a type, below arrays and in inline objects too. -/
inductive TypeNode.PointsTo (id : String) : TypeNode → Prop
  | here {n : TypeNode} (h : n.id = some id) (hne : id ≠ "") : PointsTo id n
  | element {n t : TypeNode} {ts : List TypeNode} (harray : n.arrayTypes = some ts) (ht : t ∈ ts)
    (h : PointsTo id t) : PointsTo id n
  | member {n t : TypeNode} {f : TypeField} {fs : List TypeField} (hinline : n.fields = some fs)
    (hf : f ∈ fs) (ht : t ∈ f.types) (h : PointsTo id t) : PointsTo id n

/-- An id stands in a type of the field. -/
def TypeField.PointsTo (id : String) (f : TypeField) : Prop := ∃ t ∈ f.types, t.PointsTo id

namespace Client

/-- An id stands in the fields that a reference is declared with. -/
def PointsTo (r : Reference) (id : String) : Prop :=
  ∃ fields, interfaceFields? r = some fields ∧ ∃ f ∈ fields, f.PointsTo id

/-- An id leads to references of one product, kind and name, or in both lists to none. -/
def SameTarget (rs ss : List Reference) (id : String) : Prop :=
  (Reference.find? id rs).map placement = (Reference.find? id ss).map placement

section

variable {rs ss : List Reference}

/-! ### Types -/

theorem typeText_congr {ts : List TypeNode} (h : ∀ t ∈ ts, nodeText rs t = nodeText ss t) :
    typeText rs ts = typeText ss ts := by
  rw [typeText, typeText, nodeTexts_eq_map, nodeTexts_eq_map, List.map_congr_left h]

theorem SameTarget.referenceText_eq {id : Option String}
    (h : ∀ i, id = some i → i ≠ "" → SameTarget rs ss i) :
    referenceText rs id = referenceText ss id := by
  have hname {i : String} (hsame : SameTarget rs ss i) :
      (Reference.find? i rs).map Reference.name = (Reference.find? i ss).map Reference.name := by
    have hnames := congrArg (Option.map fun p : String × String × String => p.2.2) hsame
    rwa [Option.map_map, Option.map_map] at hnames
  rw [referenceText, referenceText]
  cases hid : id.filter (!·.isEmpty) with
  | none => rfl
  | some i =>
    obtain ⟨hid, hne⟩ := Option.filter_eq_some_iff.1 hid
    have hname := hname (h i hid (by simpa using hne))
    rw [Option.bind_some, Option.bind_some]
    cases hrs : Reference.find? i rs <;> cases hss : Reference.find? i ss <;>
      simp_all

/-- A type is written alike wherever its ids lead to the same places. -/
theorem nodeText_congr (n : TypeNode) :
    (∀ id, n.PointsTo id → SameTarget rs ss id) → nodeText rs n = nodeText ss n := by
  apply TypeNode.induction
    (P := fun n => (∀ id, n.PointsTo id → SameTarget rs ss id) → nodeText rs n = nodeText ss n)
    (Q := fun f => (∀ id, f.PointsTo id → SameTarget rs ss id) →
      typeText rs f.types = typeText ss f.types)
  · intro n hfields htypes h
    obtain ⟨tag, startsWith, possibleValues, fields, id, arrayTypes⟩ := n
    have hreference : referenceText rs id = referenceText ss id :=
      SameTarget.referenceText_eq fun i hid hne => h i (.here hid hne)
    have hobject : objectText rs id fields = objectText ss id fields := by
      rcases fields with _ | _ | ⟨f, fs⟩
      · exact hreference
      · exact hreference
      · have hmembers : memberTexts rs (f :: fs) = memberTexts ss (f :: fs) := by
          rw [memberTexts_eq_map, memberTexts_eq_map]
          apply List.map_congr_left
          intro g hg
          have hsame : ∀ i, g.PointsTo i → SameTarget rs ss i := by
            rintro i ⟨t, ht, hi⟩
            exact h i (.member rfl hg ht hi)
          rw [hfields _ rfl g hg hsame]
        rw [objectText, objectText, hmembers]
    have helements : elementsText rs arrayTypes = elementsText ss arrayTypes := by
      rcases arrayTypes with _ | _ | ⟨t, ts⟩
      · rfl
      · rfl
      · have halternatives : typeText rs (t :: ts) = typeText ss (t :: ts) :=
          typeText_congr fun u hu => htypes _ rfl u hu fun i hi => h i (.element rfl hu hi)
        rw [elementsText, elementsText, ← typeText, ← typeText, halternatives]
    rw [nodeText, nodeText, hobject, helements]
  · intro f htypes h
    exact typeText_congr fun t ht => htypes t ht fun i hi => h i ⟨t, ht, hi⟩

/-! ### Files of references -/

theorem pointsTo_of_mentions {n : TypeNode} {id : String} (h : Mentions id n) : n.PointsTo id := by
  induction h with
  | here hid hne => exact .here hid hne
  | element _ harray ht _ ih => exact .element harray ht ih

theorem importOf?_congr (own : String) {t u : Reference} (h : placement t = placement u) :
    importOf? own t = importOf? own u := by
  simp only [placement, Prod.mk.injEq] at h
  have hpath : referencePath t = referencePath u := by
    rw [referencePath, referencePath, h.1, h.2.1, h.2.2]
  rw [importOf?, importOf?, hpath, h.2.2]

theorem importLines_congr (own : String) {fields : List TypeField}
    (h : ∀ f ∈ fields, ∀ id, f.PointsTo id → SameTarget rs ss id) :
    importLines rs own fields = importLines ss own fields := by
  have hlines : ((fields.flatMap fun f => typeIds f.types).filterMap fun id =>
        (Reference.find? id rs).bind (importOf? own)) =
      (fields.flatMap fun f => typeIds f.types).filterMap fun id =>
        (Reference.find? id ss).bind (importOf? own) := by
    apply List.filterMap_congr
    intro id hid
    obtain ⟨f, hf, hid⟩ := List.mem_flatMap.1 hid
    obtain ⟨t, ht, hid⟩ := mem_typeIds.1 hid
    have hsame := h f hf id ⟨t, ht, pointsTo_of_mentions (mem_nodeIds.1 hid)⟩
    rw [SameTarget] at hsame
    cases hrs : Reference.find? id rs <;> cases hss : Reference.find? id ss
    · rfl
    · simp [hrs, hss] at hsame
    · simp [hrs, hss] at hsame
    · rw [hrs, hss] at hsame
      exact importOf?_congr own (Option.some.inj hsame)
  rw [importLines, importLines, hlines]

/-- The file of a reference depends on where the ids in its fields lead, and on nothing else. -/
theorem declaration_congr {r : Reference} (h : ∀ id, PointsTo r id → SameTarget rs ss id) :
    declaration rs r = declaration ss r := by
  cases hfields : interfaceFields? r with
  | none =>
    rw [declaration, declaration]
    rw [interfaceFields?] at hfields
    split at hfields <;> simp_all
  | some fields =>
    have hpoints : ∀ f ∈ fields, ∀ id, f.PointsTo id → SameTarget rs ss id :=
      fun f hf id hid => h id ⟨fields, hfields, f, hf, hid⟩
    have hmembers : (TypeField.merge fields).map (memberText rs) =
        (TypeField.merge fields).map (memberText ss) := by
      apply List.map_congr_left
      intro f hf
      rw [memberText, memberText, typeText_congr]
      intro t ht
      obtain ⟨g, hg, htg⟩ := TypeField.exists_of_mem_merge hf ht
      exact nodeText_congr t fun id hid => hpoints g hg id ⟨t, htg, hid⟩
    rw [declaration_eq_interfaceText hfields, declaration_eq_interfaceText hfields, interfaceText,
      interfaceText, importLines_congr _ hpoints, hmembers]

end

/-! ### API modules -/

/-- The text of the API module that a reference gives, if it gives one. -/
def apiModule? (client : HttpClient) (references : List Reference) (r : Reference) :
    Option String :=
  match r.content with
  | .type _ =>
    let children := Reference.children (some r.id) references
    if children.isEmpty then none else some (apiText client r children)
  | _ => none

section

variable {client : HttpClient} {rs ss : List Reference} {r : Reference}

theorem filesOf_eq : filesOf client rs r =
    (referencePath r, declaration rs r) ::
      ((apiModule? client rs r).map fun text => (apiPath r, text)).toList := by
  rw [filesOf, apiModule?]
  cases r.content with
  | type fields =>
    dsimp only
    split <;> rfl
  | enum values => rfl
  | request request => rfl

theorem apiModule?_congr
    (h : Reference.children (some r.id) rs = Reference.children (some r.id) ss) :
    apiModule? client rs r = apiModule? client ss r := by
  rw [apiModule?, apiModule?, h]

theorem filesOf_congr (hpoints : ∀ id, PointsTo r id → SameTarget rs ss id)
    (hchildren : Reference.children (some r.id) rs = Reference.children (some r.id) ss) :
    filesOf client rs r = filesOf client ss r := by
  rw [filesOf_eq, filesOf_eq, declaration_congr hpoints, apiModule?_congr hchildren]

/-! ### Contents by path -/

theorem Files.lookup_eq_some_iff {fs : Files} (h : (fs.map Prod.fst).Nodup)
    {path content : String} : fs.lookup path = some content ↔ (path, content) ∈ fs := by
  induction fs with
  | nil => simp
  | cons f fs ih =>
    obtain ⟨p, c⟩ := f
    rw [List.map_cons, List.nodup_cons] at h
    rw [List.mem_cons, Prod.mk.injEq]
    by_cases hp : path = p
    · subst hp
      have hfresh : (path, content) ∉ fs := fun hmem => h.1 (List.mem_map.2 ⟨_, hmem, rfl⟩)
      simp [hfresh, eq_comm]
    · have hkey : (path == p) = false := by simpa using hp
      rw [List.lookup_cons, hkey]
      simpa [hp] using ih h.2

/-- No path is written twice. -/
def WritesOnce (client : HttpClient) (references : List Reference) : Prop :=
  ((references.flatMap (filesOf client references)).map Prod.fst).Nodup

instance (client : HttpClient) (references : List Reference) :
    Decidable (WritesOnce client references) := inferInstanceAs (Decidable (List.Nodup _))

theorem lookup_files_eq_some_iff (h : WritesOnce client rs) {path content : String} :
    (files client rs).lookup path = some content ↔
      ∃ r ∈ rs, (path, content) ∈ filesOf client rs r := by
  rw [files_eq_flatMap_iff.2 h, Files.lookup_eq_some_iff h, List.mem_flatMap]

theorem lookup_referencePath (h : WritesOnce client rs) (hr : r ∈ rs) :
    (files client rs).lookup (referencePath r) = some (declaration rs r) :=
  (lookup_files_eq_some_iff h).2 ⟨r, hr, List.mem_cons_self⟩

theorem lookup_apiPath (h : WritesOnce client rs) (hr : r ∈ rs) {text : String}
    (htext : apiModule? client rs r = some text) :
    (files client rs).lookup (apiPath r) = some text := by
  apply (lookup_files_eq_some_iff h).2
  refine ⟨r, hr, ?_⟩
  rw [filesOf_eq, htext]
  simp

/-- Where products and names have no slashes, no other reference writes to the path of an API
module. -/
theorem lookup_apiPath_eq (h : WritesOnce client rs) (hr : r ∈ rs) (hkind : r.kind = "type")
    (hnoSlash : ∀ s ∈ rs, s.HasNoSlash) :
    (files client rs).lookup (apiPath r) = apiModule? client rs r := by
  ext text
  refine ⟨?_, lookup_apiPath h hr⟩
  intro hlookup
  obtain ⟨s, hs, hmem⟩ := (lookup_files_eq_some_iff h).1 hlookup
  rw [filesOf_eq, List.mem_cons, Option.mem_toList, Option.map_eq_some_iff] at hmem
  rcases hmem with heq | ⟨found, hfound, heq⟩
  · exact absurd (Prod.mk.inj heq).1 (apiPath_ne_referencePath (hnoSlash r hr) (hnoSlash s hs))
  · obtain ⟨hpath, rfl⟩ := Prod.mk.inj heq
    have hkind' : s.kind = "type" := by
      rw [apiModule?] at hfound
      rw [Reference.kind]
      split at hfound
      · rename_i fields hcontent
        rw [hcontent, Content.kind]
      · exact absurd hfound (by simp)
    have hplaced : placement s = placement r :=
      placement_eq_of_apiPath (hnoSlash s hs) (hnoSlash r hr) (hkind'.trans hkind.symm) hpath
    have hsame : s = r := List.inj_on_of_nodup_map ((nodup_paths_iff hnoSlash).1 h) hs hr hplaced
    rw [← hsame]
    exact hfound

end

end Client

/-! ### Other places and more references -/

namespace Reference

variable {rs ss : List Reference}

theorem id_of_find?_eq_some {id : String} {t : Reference} (h : find? id rs = some t) :
    t.id = id := by
  have hfound := List.find?_some h
  exact eq_of_beq hfound

theorem find?_eq_some_iff (h : (rs.map Reference.id).Nodup) {id : String} {t : Reference} :
    find? id rs = some t ↔ t ∈ rs ∧ t.id = id := by
  constructor
  · intro hfind
    exact ⟨List.mem_of_find?_eq_some hfind, id_of_find?_eq_some hfind⟩
  · rintro ⟨ht, rfl⟩
    cases hfind : find? t.id rs with
    | none => exact absurd (List.find?_eq_none.1 hfind t ht) (by simp)
    | some u =>
      rw [List.inj_on_of_nodup_map h (List.mem_of_find?_eq_some hfind) ht
        (id_of_find?_eq_some hfind)]

/-- An id leads to one reference wherever the references with the id are the same. -/
theorem find?_congr (hrs : (rs.map Reference.id).Nodup) (hss : (ss.map Reference.id).Nodup)
    {id : String} (h : ∀ t, t.id = id → (t ∈ rs ↔ t ∈ ss)) : find? id rs = find? id ss := by
  ext t
  rw [find?_eq_some_iff hrs, find?_eq_some_iff hss]
  exact and_congr_left fun hid => h t hid

theorem children_congr {parent : Option String}
    (h : (rs.filter fun r => r.parent == parent) = ss.filter fun r => r.parent == parent) :
    children parent rs = children parent ss := by
  rw [children, children, h]

end Reference

theorem filter_eq_of_sublist {α : Type} {as bs : List α} (h : as.Sublist bs) (hnodup : bs.Nodup)
    {p : α → Bool} (hnew : ∀ b ∈ bs, b ∉ as → p b = false) : as.filter p = bs.filter p := by
  have hsubset : bs.filter p ⊆ as.filter p := by
    intro b hb
    obtain ⟨hb, hp⟩ := List.mem_filter.1 hb
    by_cases hold : b ∈ as
    · exact List.mem_filter.2 ⟨hold, hp⟩
    · exact absurd hp (by simp [hnew b hb hold])
  exact (h.filter p).eq_of_length_le ((hnodup.filter p).subperm hsubset).length_le

namespace Client

section

variable {client : HttpClient} {rs ss : List Reference}

theorem sameTarget_of_find? {id : String} (h : Reference.find? id rs = Reference.find? id ss) :
    SameTarget rs ss id := congrArg (Option.map placement) h

/-- References that change places, but not among the children of one type, have the same files. -/
theorem lookup_files_of_perm (hids : (rs.map Reference.id).Nodup) (honce : WritesOnce client rs)
    (hperm : rs.Perm ss) (hchildren : ∀ id : String,
      (rs.filter fun r => r.parent == some id) = ss.filter fun r => r.parent == some id)
    (path : String) : (files client rs).lookup path = (files client ss).lookup path := by
  have hids' : (ss.map Reference.id).Nodup := (hperm.map Reference.id).nodup_iff.1 hids
  have hfiles (r : Reference) : filesOf client rs r = filesOf client ss r := by
    apply filesOf_congr
    · intro id _
      exact sameTarget_of_find? (Reference.find?_congr hids hids' fun t _ => hperm.mem_iff)
    · exact Reference.children_congr (hchildren r.id)
  have hwritten : (rs.flatMap (filesOf client rs)).Perm (ss.flatMap (filesOf client ss)) := by
    rw [funext hfiles]
    exact hperm.flatMap_right _
  have honce' : WritesOnce client ss := (hwritten.map Prod.fst).nodup_iff.1 honce
  ext content
  rw [lookup_files_eq_some_iff honce, lookup_files_eq_some_iff honce']
  simp only [hperm.mem_iff, hfiles]

/-- References that nothing old points to, and that no old type owns, leave the old files alone. -/
theorem lookup_files_of_sublist (honce : WritesOnce client rs)
    (hids : (ss.map Reference.id).Nodup) (honce' : WritesOnce client ss) (h : rs.Sublist ss)
    (hnew : ∀ t ∈ ss, t ∉ rs → ∀ r ∈ rs, ¬ PointsTo r t.id ∧ t.parent ≠ some r.id)
    {f : String × String} (hf : f ∈ files client rs) :
    (files client ss).lookup f.1 = some f.2 := by
  have hids' : (rs.map Reference.id).Nodup := hids.sublist (h.map Reference.id)
  rw [files_eq_flatMap_iff.2 honce, List.mem_flatMap] at hf
  obtain ⟨r, hr, hf⟩ := hf
  apply (lookup_files_eq_some_iff honce').2
  refine ⟨r, h.mem hr, ?_⟩
  rwa [← filesOf_congr]
  · intro id hid
    apply sameTarget_of_find?
    apply Reference.find?_congr hids' hids
    intro t ht
    refine ⟨fun hold => h.mem hold, fun ht' => ?_⟩
    by_contra hfresh
    exact (hnew t ht' hfresh r hr).1 (ht ▸ hid)
  · apply Reference.children_congr
    apply filter_eq_of_sublist h hids.of_map
    intro t ht hfresh
    simpa using (hnew t ht hfresh r hr).2

end

/-- Files depend on no more of the other references than where the ids in the fields of their
reference lead, and API modules on what their type owns; so the order of references makes no
difference except among the children of one type, and references that nothing old points to and
that no old type owns leave the old files alone. -/
theorem files_depend_locally (client : HttpClient) (rs : List Reference)
    (hids : (rs.map Reference.id).Nodup) (honce : WritesOnce client rs) :
    (∀ ss : List Reference, (ss.map Reference.id).Nodup → WritesOnce client ss →
      (∀ r ∈ rs, r ∈ ss →
        ((∀ id, PointsTo r id → SameTarget rs ss id) →
          ∃ text, (files client rs).lookup (referencePath r) = some text
            ∧ (files client ss).lookup (referencePath r) = some text)
        ∧ (Reference.children (some r.id) rs = Reference.children (some r.id) ss →
          apiModule? client rs r = apiModule? client ss r
          ∧ ∀ text, apiModule? client rs r = some text →
            (files client rs).lookup (apiPath r) = some text
            ∧ (files client ss).lookup (apiPath r) = some text))
      ∧ (rs.Sublist ss →
        (∀ t ∈ ss, t ∉ rs → ∀ r ∈ rs, ¬ PointsTo r t.id ∧ t.parent ≠ some r.id) →
          ∀ f ∈ files client rs, (files client ss).lookup f.1 = some f.2))
    ∧ (∀ ss : List Reference, rs.Perm ss →
      (∀ id : String, (rs.filter fun r => r.parent == some id) =
        ss.filter fun r => r.parent == some id) →
      ∀ path, (files client rs).lookup path = (files client ss).lookup path)
    ∧ ∀ r ∈ rs, r.kind = "type" → (∀ s ∈ rs, s.HasNoSlash) →
      (files client rs).lookup (apiPath r) = apiModule? client rs r := by
  refine ⟨?_, fun ss => lookup_files_of_perm hids honce,
    fun r hr hkind hnoSlash => lookup_apiPath_eq honce hr hkind hnoSlash⟩
  intro ss hids' honce'
  refine ⟨?_, fun h hnew f hf => lookup_files_of_sublist honce hids' honce' h hnew hf⟩
  intro r hr hr'
  constructor
  · intro hpoints
    refine ⟨declaration rs r, lookup_referencePath honce hr, ?_⟩
    rw [declaration_congr hpoints]
    exact lookup_referencePath honce' hr'
  · intro hchildren
    have hsame : apiModule? client rs r = apiModule? client ss r := apiModule?_congr hchildren
    refine ⟨hsame, ?_⟩
    intro text htext
    exact ⟨lookup_apiPath honce hr htext, lookup_apiPath honce' hr' (hsame ▸ htext)⟩

/-! ### A type among other references -/

/-- The same references with the type behind what it refers to and owns. -/
def rearranged : List Reference := apart.tail ++ [crossing]

/-- The same references and one more. -/
def joined : List Reference := ⟨"q", none, "d", "D", "", .type []⟩ :: apart

/-- The type and another version of what it refers to. -/
def revised : List Reference :=
  [{ crossed with description := "New.", content := .type crossingFields }, crossing]

theorem pointsTo_crossing {id : String} (h : PointsTo crossing id) : id = "b" := by
  have hobject {i : String}
      (h : TypeNode.PointsTo i { TypeNode.plain "object" with id := some "b" }) : i = "b" := by
    cases h with
    | here hid _ => exact (Option.some.inj hid).symm
    | element harray => cases harray
    | member hinline => cases hinline
  obtain ⟨fields, hfields, f, hf, t, ht, hpoints⟩ := h
  cases hfields
  simp only [crossingFields, List.mem_cons, List.not_mem_nil, or_false] at hf
  rcases hf with rfl | rfl
  · rw [List.mem_singleton.1 ht] at hpoints
    cases hpoints with
    | here hid _ => cases hid
    | element harray hu hpoints =>
      cases harray
      rw [List.mem_singleton.1 hu] at hpoints
      exact hobject hpoints
    | member hinline => cases hinline
  · rw [List.mem_singleton.1 ht] at hpoints
    exact hobject hpoints

theorem pointsTo_apart {r : Reference} (hr : r ∈ apart) {id : String} (h : PointsTo r id) :
    id = "b" := by
  simp only [apart, List.mem_cons, List.not_mem_nil, or_false] at hr
  rcases hr with rfl | rfl | rfl | rfl
  · exact pointsTo_crossing h
  · obtain ⟨fields, hfields, f, hf, -⟩ := h
    cases hfields
    exact absurd hf List.not_mem_nil
  · obtain ⟨fields, hfields, -⟩ := h
    cases hfields
  · obtain ⟨fields, hfields, f, hf, -⟩ := h
    cases hfields
    exact absurd hf List.not_mem_nil

/-- Neither another order nor one more reference changes the files, and another version of what a
type refers to leaves the file of the type alone. -/
theorem apart_files_stay :
    (apart.map Reference.id).Nodup ∧ WritesOnce .usual apart
    ∧ (∀ path, (files .usual apart).lookup path = (files .usual rearranged).lookup path)
    ∧ (∀ f ∈ files .usual apart, (files .usual joined).lookup f.1 = some f.2)
    ∧ ∃ text, (files .usual apart).lookup (referencePath crossing) = some text
      ∧ (files .usual revised).lookup (referencePath crossing) = some text := by
  have hids : (apart.map Reference.id).Nodup := by decide
  have honce : WritesOnce .usual apart := by decide +kernel
  obtain ⟨hothers, hperm, -⟩ := files_depend_locally .usual apart hids honce
  refine ⟨hids, honce, ?_, ?_, ?_⟩
  · exact hperm rearranged (List.perm_append_singleton crossing apart.tail).symm fun id => rfl
  · apply (hothers joined (by decide) (by decide +kernel)).2 (List.sublist_cons_self _ _)
    intro t ht hnew r hr
    rcases List.mem_cons.1 ht with rfl | ht
    · refine ⟨fun hpoints => ?_, by simp⟩
      exact absurd (pointsTo_apart hr hpoints) (by decide)
    · exact absurd ht hnew
  · apply ((hothers revised (by decide) (by decide)).1 crossing (by simp [apart])
      (by simp [revised])).1
    intro id hid
    rw [pointsTo_crossing hid]
    rfl

end Client

end ClientScribe
