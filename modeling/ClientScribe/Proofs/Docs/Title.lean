import ClientScribe.Docs.Extraction
import Mathlib.Data.List.Infix

/-!
Clean titles.  What is cut from a title is a dash in blanks and a product name, wherever it stands;
of several names that fit at a place the one that is listed first counts.  So only the endings are
cut exactly if none of these marks begins in front of them and each of them is the one that counts.
-/

namespace ClientScribe.Title

/-- A dash in blanks and a product name. -/
def mark (product : String) : List Char := ' ' :: '-' :: ' ' :: product.toList

/-- The first product whose mark stands at the start of the text. -/
def marked? (products : List String) (s : List Char) : Option String :=
  products.find? fun p => (mark p).isPrefixOf s

/-- A title as it is read from left to right: marks of products, and the characters between them. -/
inductive Reads (products : List String) : List Char → List (Char ⊕ String) → Prop
  | nil : Reads products [] []
  | product {p : String} {rest : List Char} {parts : List (Char ⊕ String)}
    (h : marked? products (mark p ++ rest) = some p) (hrest : Reads products rest parts) :
    Reads products (mark p ++ rest) (.inr p :: parts)
  | char {c : Char} {rest : List Char} {parts : List (Char ⊕ String)}
    (h : marked? products (c :: rest) = none) (hrest : Reads products rest parts) :
    Reads products (c :: rest) (.inl c :: parts)

/-- What is left of a title without its marks. -/
def kept (parts : List (Char ⊕ String)) : List Char := parts.filterMap Sum.getLeft?

/-- A title that is cut as its readers expect: nothing but endings goes, and one goes wherever there
is one. -/
structure CutsEndings (products : List String) (title : List Char)
    (parts : List (Char ⊕ String)) : Prop where
  unchanged : (∀ p ∈ products, ¬ mark p <:+ title) → kept parts = title
  shortened : (∃ p ∈ products, mark p <:+ title) →
    ∃ endings, endings ≠ [] ∧ (∀ p ∈ endings, p ∈ products)
      ∧ title = kept parts ++ endings.flatMap mark
  inside : ∃ (front : List Char) (endings : List String),
    parts = front.map .inl ++ endings.map .inr

/-- A text in which no mark begins, and marks behind it of which each is the one that counts. -/
structure EndsInMarks (products : List String) (title front : List Char)
    (endings : List String) : Prop where
  eq : title = front ++ endings.flatMap mark
  front : ∀ s, s ≠ [] → s <:+ front → marked? products (s ++ endings.flatMap mark) = none
  endings : ∀ p others, p :: others <:+ endings →
    marked? products (mark p ++ others.flatMap mark) = some p

/-! ### Reading a title -/

section

variable {products : List String} {s rest : List Char} {parts : List (Char ⊕ String)}

theorem marked?_eq_none_iff : marked? products s = none ↔ ∀ p ∈ products, ¬ mark p <+: s := by
  simp [marked?]

theorem of_marked?_eq_some {p : String} (h : marked? products s = some p) :
    p ∈ products ∧ mark p <+: s :=
  have hprefix : (mark p).isPrefixOf s = true := by simpa using List.find?_some h
  ⟨List.mem_of_find?_eq_some h, List.isPrefixOf_iff_prefix.1 hprefix⟩

/-- What is cut at a place is the mark that counts there. -/
theorem productMark?_eq : productMark? products s =
    (marked? products s).map fun p => ((), s.drop (mark p).length) := by
  by_cases hdash : ∃ t, s = ' ' :: '-' :: ' ' :: t
  · obtain ⟨t, rfl⟩ := hdash
    have hstrip : Text.strip? " - ".toList (' ' :: '-' :: ' ' :: t) = some t :=
      Text.strip?_append [' ', '-', ' '] t
    have hfind : (products.findSome? fun p => Text.strip? p.toList t) =
        (marked? products (' ' :: '-' :: ' ' :: t)).map fun p => t.drop p.toList.length := by
      induction products with
      | nil => rfl
      | cons p products ih =>
        rw [List.findSome?_cons, ih, Text.strip?]
        by_cases hp : p.toList.isPrefixOf t = true
        · simp [marked?, mark, hp]
        · simp [marked?, mark, hp]
    simp only [productMark?, hstrip, hfind, Option.bind_eq_bind, Option.bind_some]
    cases marked? products (' ' :: '-' :: ' ' :: t) with
    | none => rfl
    | some p => simp [mark]
  · have hnone : marked? products s = none := by
      rw [marked?_eq_none_iff]
      rintro p - ⟨t, rfl⟩
      exact hdash ⟨p.toList ++ t, rfl⟩
    have hstrip : Text.strip? " - ".toList s = none := by
      rw [Text.strip?, if_neg]
      intro hprefix
      obtain ⟨t, rfl⟩ := List.isPrefixOf_iff_prefix.1 hprefix
      exact hdash ⟨t, rfl⟩
    simp only [productMark?, hstrip, hnone, Option.bind_eq_bind, Option.bind_none, Option.map_none]

/-- Every title can be read. -/
theorem exists_reads (products : List String) (s : List Char) :
    ∃ parts, Reads products s parts := by
  induction hlength : s.length using Nat.strongRecOn generalizing s with
  | ind n ih =>
    cases s with
    | nil => exact ⟨[], .nil⟩
    | cons c rest =>
      cases hmark : marked? products (c :: rest) with
      | none =>
        rw [List.length_cons] at hlength
        obtain ⟨parts, hparts⟩ := ih rest.length (by omega) rest rfl
        exact ⟨_, .char hmark hparts⟩
      | some p =>
        obtain ⟨-, behind, hbehind⟩ := of_marked?_eq_some hmark
        have hshorter : behind.length < n := by
          rw [← hlength, ← hbehind, mark]
          simp only [List.length_append, List.length_cons]
          omega
        obtain ⟨parts, hparts⟩ := ih _ hshorter behind rfl
        rw [← hbehind] at hmark ⊢
        exact ⟨_, .product hmark hparts⟩

/-- The parts are what the search for marks finds. -/
theorem Reads.segments_eq (h : Reads products s parts) :
    Text.segments (productMark? products) s = parts.map (Sum.map id fun _ => ()) := by
  induction h with
  | nil => rw [Text.segments, List.map_nil]
  | @product p rest parts hmark _ ih =>
    have hfound : productMark? products (' ' :: ('-' :: ' ' :: p.toList ++ rest)) =
        some ((), rest) := by
      rw [productMark?_eq, ← List.cons_append, ← mark, hmark, Option.map_some, List.drop_left]
    have hshorter : rest.length ≤ ('-' :: ' ' :: p.toList ++ rest).length := by
      rw [List.length_append]
      exact Nat.le_add_left ..
    rw [mark, List.cons_append, Text.segments_cons_of_some hfound hshorter, ih]
    rfl
  | @char c rest parts hnone _ ih =>
    have hfound : productMark? products (c :: rest) = none := by
      rw [productMark?_eq, hnone, Option.map_none]
    rw [Text.segments_cons_of_none hfound, ih]
    rfl

/-- There is one way to read a title. -/
theorem Reads.unique (h : Reads products s parts) {parts' : List (Char ⊕ String)}
    (h' : Reads products s parts') : parts = parts' := by
  induction h generalizing parts' with
  | nil =>
    generalize hs : ([] : List Char) = s at h'
    cases h' with
    | nil => rfl
    | product => exact absurd hs (by simp [mark])
    | char => exact absurd hs (by simp)
  | @product p rest parts hmark _ ih =>
    generalize hs : mark p ++ rest = s at h' hmark
    cases h' with
    | nil => exact absurd hs (by simp [mark])
    | product hmark' hrest' =>
      obtain rfl := Option.some.inj (hmark.symm.trans hmark')
      rw [ih (List.append_cancel_left hs ▸ hrest')]
    | char hnone' => exact absurd (hmark.symm.trans hnone') (by simp)
  | @char c rest parts hnone _ ih =>
    generalize hs : c :: rest = s at h' hnone
    cases h' with
    | nil => exact absurd hs (by simp)
    | product hmark' => exact absurd (hmark'.symm.trans hnone) (by simp)
    | char _ hrest' =>
      obtain ⟨rfl, rfl⟩ := List.cons.inj hs
      rw [ih hrest']

theorem clean_eq_kept {title : String} (h : Reads products title.toList parts) :
    clean products title = String.ofList (kept parts) := by
  rw [clean, Text.replaceAll, h.segments_eq, List.flatMap_map, kept,
    List.filterMap_eq_flatMap_toList]
  congr 2
  funext part
  cases part <;> rfl

theorem Reads.mem_products (h : Reads products s parts) : ∀ p, .inr p ∈ parts → p ∈ products := by
  induction h with
  | nil => exact fun p hp => absurd hp List.not_mem_nil
  | product hmark _ ih =>
    intro p hp
    rcases List.mem_cons.1 hp with hp | hp
    · rw [Sum.inr.inj hp]
      exact (of_marked?_eq_some hmark).1
    · exact ih p hp
  | char _ _ ih =>
    intro p hp
    exact ih p ((List.mem_cons.1 hp).resolve_left (by simp))

theorem Reads.length_kept_le (h : Reads products s parts) : (kept parts).length ≤ s.length := by
  induction h with
  | nil => exact Nat.le_refl 0
  | product _ _ ih =>
    rw [List.length_append]
    exact ih.trans (Nat.le_add_left ..)
  | char _ _ ih => exact Nat.succ_le_succ ih

theorem kept_append (front : List Char) (endings : List String) :
    kept (front.map .inl ++ endings.map .inr) = front := by
  rw [kept, List.filterMap_append, List.filterMap_map, List.filterMap_map]
  simp [Function.comp_def]

/-- A text is read as marks if it is made of marks that count where they stand. -/
theorem reads_map_inr_iff {endings : List String} : Reads products s (endings.map .inr) ↔
    s = endings.flatMap mark ∧ ∀ p others, p :: others <:+ endings →
      marked? products (mark p ++ others.flatMap mark) = some p := by
  induction endings generalizing s with
  | nil =>
    constructor
    · intro h
      cases h
      exact ⟨rfl, fun p others hsuffix => absurd hsuffix (by simp)⟩
    · rintro ⟨rfl, -⟩
      exact .nil
  | cons p endings ih =>
    constructor
    · intro h
      cases h with
      | product hmark hrest =>
        obtain ⟨rfl, hall⟩ := ih.1 hrest
        refine ⟨rfl, fun q others hsuffix => ?_⟩
        rcases List.suffix_cons_iff.1 hsuffix with heq | hsuffix
        · obtain ⟨rfl, rfl⟩ := List.cons.inj heq
          exact hmark
        · exact hall q others hsuffix
    · rintro ⟨rfl, hall⟩
      exact .product (hall p endings List.suffix_rfl)
        (ih.2 ⟨rfl, fun q others hsuffix => hall q others (hsuffix.trans (List.suffix_cons _ _))⟩)

/-- Marks are read at the end only where the title ends in marks and none begins before. -/
theorem reads_append_iff {front : List Char} {endings : List String} :
    Reads products s (front.map .inl ++ endings.map .inr) ↔
      EndsInMarks products s front endings := by
  induction front generalizing s with
  | nil =>
    rw [List.map_nil, List.nil_append, reads_map_inr_iff]
    constructor
    · rintro ⟨rfl, hall⟩
      exact ⟨rfl, fun t hne ht => absurd (List.suffix_nil.1 ht) hne, hall⟩
    · exact fun h => ⟨h.eq, h.endings⟩
  | cons c front ih =>
    constructor
    · intro h
      cases h with
      | char hnone hrest =>
        obtain ⟨rfl, hfront, hendings⟩ := ih.1 hrest
        refine ⟨rfl, fun t hne ht => ?_, hendings⟩
        rcases List.suffix_cons_iff.1 ht with rfl | ht
        · exact hnone
        · exact hfront t hne ht
    · rintro ⟨rfl, hfront, hendings⟩
      exact .char (hfront (c :: front) (by simp) List.suffix_rfl)
        (ih.2 ⟨rfl, fun t hne ht => hfront t hne (ht.trans (List.suffix_cons c front)), hendings⟩)

/-- Nothing is cut exactly from a title in which no mark occurs. -/
theorem Reads.kept_eq_iff (h : Reads products s parts) :
    kept parts = s ↔ ∀ p ∈ products, ¬ mark p <:+: s := by
  constructor
  · intro hkept
    induction h with
    | nil =>
      intro p _ hinfix
      exact absurd (List.infix_nil.1 hinfix) (by simp [mark])
    | product hmark hrest ih =>
      have hle := hrest.length_kept_le
      have hlength := congrArg List.length hkept
      simp only [mark, kept, List.filterMap_cons, Sum.getLeft?_inr, List.length_append,
        List.length_cons] at hlength hle
      omega
    | char hnone hrest ih =>
      intro p hp hinfix
      rcases List.infix_cons_iff.1 hinfix with hprefix | hinfix
      · exact marked?_eq_none_iff.1 hnone p hp hprefix
      · exact ih (List.cons.inj hkept).2 p hp hinfix
  · intro hnone
    have hplain : EndsInMarks products s s [] := by
      refine ⟨by simp, fun t _ ht => ?_, fun p others hsuffix => absurd hsuffix (by simp)⟩
      rw [List.flatMap_nil, List.append_nil, marked?_eq_none_iff]
      exact fun p hp hstart => hnone p hp (hstart.isInfix.trans ht.isInfix)
    rw [h.unique (reads_append_iff.2 hplain), kept_append]

/-- A title of which only endings are cut is cut as expected. -/
theorem Reads.cutsEndings_iff (h : Reads products s parts) : CutsEndings products s parts ↔
    ∃ front endings, EndsInMarks products s front endings := by
  constructor
  · intro hcuts
    obtain ⟨front, endings, rfl⟩ := hcuts.inside
    exact ⟨front, endings, reads_append_iff.1 h⟩
  · rintro ⟨front, endings, hends⟩
    obtain rfl := h.unique (reads_append_iff.2 hends)
    have hmem : ∀ p ∈ endings, p ∈ products := fun p hp =>
      h.mem_products p (List.mem_append_right _ (List.mem_map_of_mem hp))
    refine ⟨fun hnone => ?_, fun ⟨p, hp, hsuffix⟩ => ⟨endings, ?_, hmem, ?_⟩, front, endings, rfl⟩
    · -- the last of the endings would be one that the title has
      rcases endings.eq_nil_or_concat' with rfl | ⟨others, last, rfl⟩
      · rw [kept_append, hends.eq, List.flatMap_nil, List.append_nil]
      · have hlast : mark last <:+ s := by
          rw [hends.eq, List.flatMap_append, List.flatMap_singleton, ← List.append_assoc]
          exact List.suffix_append _ _
        exact absurd hlast (hnone last (hmem last (List.mem_append_right others (by simp))))
    · rintro rfl
      have hkept : kept (front.map .inl ++ ([] : List String).map .inr) = s := by
        rw [kept_append, hends.eq, List.flatMap_nil, List.append_nil]
      exact h.kept_eq_iff.1 hkept p hp hsuffix.isInfix
    · rw [kept_append]
      exact hends.eq

end

/-- A clean title is what is left of the title, as it is read, without its marks.  It is the title
itself exactly if no mark occurs anywhere in it, and nothing but the endings is cut exactly if no
mark begins in front of them and each of them is the one that counts at its place. -/
theorem clean_cuts_endings_iff (products : List String) (title : String) :
    ∃ parts, Reads products title.toList parts
      ∧ (∀ parts', Reads products title.toList parts' → parts' = parts)
      ∧ clean products title = String.ofList (kept parts)
      ∧ (clean products title = title ↔ ∀ p ∈ products, ¬ mark p <:+: title.toList)
      ∧ (CutsEndings products title.toList parts ↔
        ∃ front endings, EndsInMarks products title.toList front endings) := by
  obtain ⟨parts, hparts⟩ := exists_reads products title.toList
  refine ⟨parts, hparts, fun parts' h => h.unique hparts, clean_eq_kept hparts, ?_,
    hparts.cutsEndings_iff⟩
  rw [← hparts.kept_eq_iff, clean_eq_kept hparts, ← String.toList_inj, String.toList_ofList]

/-- A name is cut from a word that begins with it, and a name that begins another one is cut in its
place. -/
theorem collection_cut :
    (∀ p ∈ ExtractionRules.usualProducts, ¬ mark p <:+ "Customer Object - Collection".toList)
    ∧ clean ExtractionRules.usualProducts "Customer Object - Collection" = "Customer Objection"
    ∧ mark "AB" <:+ "X - AB".toList
    ∧ clean ["A", "AB"] "X - AB" = "XB" := by
  decide +kernel

end ClientScribe.Title
