import ClientScribe.Docs.Extraction
import Mathlib.Data.List.Infix

/-!
Reading an error list.  The page lists each error by its name in bold on a line of its own, and its
description on the line behind it.  An entry is found when its description ends in a line break, so
the last one is lost on a page that ends without.
-/

namespace ClientScribe

namespace Body

open Text (isWord run? strip? findAll)

/-- An entry that an error list can have: its name is made of word characters, and its description
is one line. -/
structure IsEntry (e : EnumValue) : Prop where
  named : e.name ≠ ""
  word : ∀ c ∈ e.name.toList, isWord c = true
  line : '\n' ∉ e.description.toList

/-- The two lines of an entry. -/
def entryText (e : EnumValue) : String := "**" ++ e.name ++ "**\n" ++ e.description

theorem toList_entryText (e : EnumValue) : (entryText e).toList =
    ['*', '*'] ++ (e.name.toList ++ (['*', '*', '\n'] ++ e.description.toList)) := by
  simp only [entryText, String.toList_append, List.append_assoc]
  rfl

theorem not_isWord_star : isWord '*' = false := by decide

variable {e : EnumValue} {s rest : List Char}

/-- An entry is found where its text stands and a line break follows. -/
theorem entryAt?_entryText (he : IsEntry e) (rest : List Char) :
    entryAt? ((entryText e).toList ++ '\n' :: rest) = some (e, rest) := by
  have hname : e.name.toList ≠ [] := fun h => he.named (String.toList_eq_nil_iff.1 h)
  have hline : ∀ c ∈ e.description.toList, decide (c ≠ '\n') = true :=
    fun c hc => decide_eq_true fun h => he.line (h ▸ hc)
  have hend : ∀ c ∈ ('\n' :: rest).head?, decide (c ≠ '\n') = false := by simp
  obtain ⟨hdrop, htake⟩ := Text.dropWhile_append_of_head? hline hend
  have hstar : ∀ c ∈ (['*', '*', '\n'] ++ (e.description.toList ++ '\n' :: rest)).head?,
      isWord c = false := by simpa using not_isWord_star
  have hrun := Text.run?_append hname he.word hstar
  have hbreak : strip? ['\n'] ('\n' :: rest) = some rest := Text.strip?_append ['\n'] rest
  rw [toList_entryText]
  simp only [entryAt?, List.append_assoc, Text.strip?_append, Option.bind_eq_bind, Option.bind_some,
    hrun, hdrop, htake, hbreak, String.ofList_toList]
  rfl

/-- An entry reaches over two line breaks. -/
theorem two_le_count_of_entryAt? (h : entryAt? s = some (e, rest)) : 2 ≤ s.count '\n' := by
  simp only [entryAt?, Option.bind_eq_bind, Option.bind_eq_some_iff, Option.pure_def,
    Option.some.injEq] at h
  obtain ⟨s₁, h₁, ⟨name, s₂⟩, h₂, s₃, h₃, s₄, h₄, -⟩ := h
  have hstars := Text.eq_append_of_strip? h₁
  have hname := (Text.of_run?_eq_some h₂).2.2
  have hline : s₂ = ['*', '*', '\n'] ++ s₃ := Text.eq_append_of_strip? h₃
  have hend := Text.eq_append_of_strip? h₄
  have hsecond : 1 ≤ s₃.count '\n' := by
    have hle := (List.dropWhile_sublist (· ≠ '\n') (l := s₃)).count_le '\n'
    rw [hend, List.count_append] at hle
    exact (Nat.le_add_right 1 _).trans hle
  have hfirst : s.count '\n' = ['*', '*'].count '\n' + (name.count '\n'
      + (['*', '*', '\n'].count '\n' + s₃.count '\n')) := by
    rw [hstars, hname, hline, List.count_append, List.count_append, List.count_append]
  have hbreak : ['*', '*', '\n'].count '\n' = 1 := by decide
  omega

/-! ### Lists of entries -/

/-- No entry starts in a text without bold marks; half a mark at its end and half a mark behind it
make none if the text behind it starts no name there. -/
theorem findAll_append {pre : List Char} (hpre : ¬ ['*', '*'] <:+: pre)
    (hs : ∀ t, s = '*' :: t → run? isWord t = none) :
    findAll entryAt? (pre ++ s) = findAll entryAt? s := by
  induction pre with
  | nil => rfl
  | cons c pre ih =>
    have hnone : entryAt? (c :: (pre ++ s)) = none := by
      cases hstrip : strip? ['*', '*'] (c :: (pre ++ s)) with
      | none => simp only [entryAt?, hstrip, Option.bind_eq_bind, Option.bind_none]
      | some t =>
        obtain ⟨rfl, ht⟩ := List.cons.inj (Text.eq_append_of_strip? hstrip)
        -- the second star is in `s`, or the mark is in the text in front of it
        cases pre with
        | nil =>
          simp only [entryAt?, hstrip, Option.bind_eq_bind, Option.bind_some, hs t ht,
            Option.bind_none]
        | cons d pre =>
          obtain ⟨rfl, -⟩ := List.cons.inj ht
          exact absurd (List.prefix_append ['*', '*'] pre).isInfix hpre
    rw [List.cons_append, Text.findAll_cons_of_none hnone, ih fun h => hpre (List.infix_cons h)]

/-- Entries with a line break behind each are found one after another. -/
theorem findAll_entries {es : List EnumValue} (hes : ∀ e ∈ es, IsEntry e) (s : List Char) :
    findAll entryAt? (es.flatMap (fun e => (entryText e).toList ++ ['\n']) ++ s) =
      es ++ findAll entryAt? s := by
  induction es with
  | nil => rfl
  | cons e es ih =>
    rw [List.forall_mem_cons] at hes
    obtain ⟨rest, hrest⟩ :
        ∃ rest, rest = es.flatMap (fun e => (entryText e).toList ++ ['\n']) ++ s := ⟨_, rfl⟩
    have htext : (e :: es).flatMap (fun e => (entryText e).toList ++ ['\n']) ++ s =
        (entryText e).toList ++ '\n' :: rest := by
      simp [hrest]
    have hentry := entryAt?_entryText hes.1 rest
    obtain ⟨c, t, ht⟩ : ∃ c t, (entryText e).toList ++ '\n' :: rest = c :: t :=
      List.exists_cons_of_ne_nil (by simp)
    have hshorter : rest.length ≤ t.length := by
      have := congrArg List.length ht
      simp only [List.length_append, List.length_cons] at this
      omega
    rw [ht] at hentry
    rw [htext, ht, Text.findAll_cons_of_some hentry hshorter, hrest, ih hes.2, List.cons_append]

/-- An entry at the end of the text is not found: its text has one line break only. -/
theorem findAll_entryText (he : IsEntry e) : findAll entryAt? (entryText e).toList = [] := by
  have hname : e.name.toList.count '\n' = 0 := by
    rw [List.count_eq_zero]
    intro hmem
    exact absurd (he.word '\n' hmem) (by decide)
  have hcount : (entryText e).toList.count '\n' = 1 := by
    rw [toList_entryText, List.count_append, List.count_append, List.count_append, hname,
      List.count_eq_zero.2 he.line]
    rfl
  apply Text.findAll_eq_nil
  intro t ht
  cases hentry : entryAt? t with
  | none => rfl
  | some found =>
    have htwo := two_le_count_of_entryAt? hentry
    have hle := ht.sublist.count_le '\n'
    omega

theorem run?_of_star_entry {t : List Char} (h : (entryText e).toList ++ s = '*' :: t) :
    run? isWord t = none := by
  rw [toList_entryText, List.append_assoc] at h
  obtain ⟨-, rfl⟩ := List.cons.inj h
  simp [run?, not_isWord_star]

/-- What an error list gives: all its entries where a line break follows the last, and all but the
last where none does. -/
theorem errors_listed {preamble ending : String} (hpreamble : ¬ "**".toList <:+: preamble.toList)
    {es : List EnumValue} (hes : ∀ e ∈ es, IsEntry e) (hending : ending = "" ∨ ending = "\n") :
    errors (preamble ++ "\n".intercalate (es.map entryText) ++ ending) =
      if ending = "\n" then es else es.dropLast := by
  have hbody : (preamble ++ "\n".intercalate (es.map entryText) ++ ending).toList =
      preamble.toList ++ (['\n'].intercalate (es.map fun e => (entryText e).toList)
        ++ ending.toList) := by
    simp only [String.toList_append, String.toList_intercalate, List.map_map, List.append_assoc]
    rfl
  rw [errors, hbody]
  rcases es.eq_nil_or_concat' with rfl | ⟨init, last, rfl⟩
  · rw [findAll_append hpreamble]
    · rcases hending with rfl | rfl <;> decide +kernel
    · intro t ht
      rcases hending with rfl | rfl <;> exact absurd ht (by simp)
  · obtain ⟨hinit, hlast⟩ := List.forall_mem_append.1 hes
    have hentries : ['\n'].intercalate ((init ++ [last]).map fun e => (entryText e).toList) =
        init.flatMap (fun e => (entryText e).toList ++ ['\n']) ++ (entryText last).toList := by
      rw [List.map_append, List.map_singleton, Text.intercalate_concat, List.flatMap_map]
    rw [hentries, findAll_append hpreamble]
    · rcases hending with rfl | rfl
      · rw [List.append_assoc, findAll_entries hinit, String.toList_empty, List.append_nil,
          findAll_entryText (List.forall_mem_singleton.1 hlast), List.append_nil,
          if_neg (by decide), List.dropLast_concat]
      · have hclosed : init.flatMap (fun e => (entryText e).toList ++ ['\n'])
            ++ (entryText last).toList ++ "\n".toList =
              (init ++ [last]).flatMap (fun e => (entryText e).toList ++ ['\n']) ++ [] := by
          simp
        rw [hclosed, findAll_entries hes, Text.findAll_nil, List.append_nil, if_pos rfl]
    · intro t ht
      cases init with
      | nil => exact run?_of_star_entry (s := ending.toList) (by simpa using ht)
      | cons first init =>
        rw [List.flatMap_cons, List.append_assoc, List.append_assoc, List.append_assoc] at ht
        exact run?_of_star_entry ht

end Body

/-- An error list that belongs to a type gives all its entries, in order, if its last description
ends in a line break; without one the last entry is missing. -/
theorem Visit.extract_errorList [Interpreter] (v : Visit) (htopic : v.topic = .errorList)
    {owner : String} (howner : v.owner? = some owner) {preamble ending : String}
    (hpreamble : ¬ "**".toList <:+: preamble.toList) {es : List EnumValue}
    (hes : ∀ e ∈ es, Body.IsEntry e) (hending : ending = "" ∨ ending = "\n")
    (hbody : v.page.body = preamble ++ "\n".intercalate (es.map Body.entryText) ++ ending)
    (titles : List String) (product : String) :
    v.extract ⟨[], titles⟩ product =
      .done (some ⟨product, some owner, v.page.slug, Title.enumName v.page.title, v.page.excerpt,
        .enum (if ending = "\n" then es else es.dropLast)⟩) := by
  simp only [Visit.extract, htopic, howner]
  rw [hbody, Body.errors_listed hpreamble hes hending]
  rfl

/-- A description with bold text, and one that is empty. -/
def twoErrors : List EnumValue := [⟨"ERROR_A", "See **ERROR_B**."⟩, ⟨"ERROR_B", ""⟩]

def errorPage (es : List EnumValue) (ending : String) : Visit :=
  ⟨⟨"A Errors", "e", "basic", "*" ++ "\n".intercalate (es.map Body.entryText) ++ ending, "", none,
    []⟩, some "a"⟩

theorem twoErrors_read :
    (errorPage twoErrors "\n").topic = .errorList
    ∧ (errorPage twoErrors "\n").owner? = some "a"
    ∧ (∀ e ∈ twoErrors, Body.IsEntry e)
    ∧ (errorPage twoErrors "\n").extract ⟨[], []⟩ "p" =
      .done (some ⟨"p", some "a", "e", "AError", "", .enum twoErrors⟩) := by
  have htopic : (errorPage twoErrors "\n").topic = .errorList := by decide
  have howner : (errorPage twoErrors "\n").owner? = some "a" := by decide
  have hentries : ∀ e ∈ twoErrors, Body.IsEntry e := by
    intro e he
    simp only [twoErrors, List.mem_cons, List.not_mem_nil, or_false] at he
    rcases he with rfl | rfl
    · exact ⟨by decide, List.all_eq_true.1 (by decide), by decide⟩
    · exact ⟨by decide, List.all_eq_true.1 (by decide), by decide⟩
  have hpreamble : ¬ "**".toList <:+: "*".toList := by decide
  exact ⟨htopic, howner, hentries, Visit.extract_errorList _ htopic howner hpreamble hentries
    (.inr rfl) rfl [] "p"⟩

/-- Without a line break behind the description the entry is missing. -/
theorem lastError_missing :
    (errorPage [⟨"X", "d"⟩] "").topic = .errorList
    ∧ (errorPage [⟨"X", "d"⟩] "").owner? = some "a"
    ∧ Body.IsEntry ⟨"X", "d"⟩
    ∧ (errorPage [⟨"X", "d"⟩] "").extract ⟨[], []⟩ "p" =
      .done (some ⟨"p", some "a", "e", "AError", "", .enum []⟩)
    ∧ (errorPage [⟨"X", "d"⟩] "").extract ⟨[], []⟩ "p" ≠
      .done (some ⟨"p", some "a", "e", "AError", "", .enum [⟨"X", "d"⟩]⟩) := by
  have htopic : (errorPage [⟨"X", "d"⟩] "").topic = .errorList := by decide
  have howner : (errorPage [⟨"X", "d"⟩] "").owner? = some "a" := by decide
  have hentry : Body.IsEntry ⟨"X", "d"⟩ :=
    ⟨by decide, List.all_eq_true.1 (by decide), by decide⟩
  have herrors : Body.errors (errorPage [⟨"X", "d"⟩] "").page.body = [] := by decide +kernel
  have hextract : (errorPage [⟨"X", "d"⟩] "").extract ⟨[], []⟩ "p" =
      .done (some ⟨"p", some "a", "e", "AError", "", .enum []⟩) := by
    simp only [Visit.extract, htopic, howner, herrors]
    rfl
  refine ⟨htopic, howner, hentry, hextract, ?_⟩
  rw [hextract]
  simp [Outcome.done]

end ClientScribe
