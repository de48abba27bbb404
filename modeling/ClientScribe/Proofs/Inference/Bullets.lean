import ClientScribe.Client.TypeText
import ClientScribe.Inference.Refine
import Mathlib.Data.List.TakeWhile

/-!
Bullets that document values or fields.  A bullet sets its token between two fences, whatever the
token is; a matcher takes the tokens spelled in word characters and blanks.  So a description is
taken as a whole exactly if all its tokens are spelled that way, and otherwise only in part.
-/

namespace ClientScribe.Clue

open Text (isBlank lines run? strip? trim)

/-! ### Bullets -/

/-- The marks that a bullet can have. -/
def marks : List (List Char) := [['\\', '*'], ['*'], ['-']]

/-- The fence around values. -/
def bold : List Char := ['*', '*']

/-- The fence around names of fields. -/
def code : List Char := "`".toList

/-- A line with a bullet, on which a text follows between fences. -/
def IsBullet (fence line text : List Char) : Prop :=
  ∃ mark ∈ marks, ∃ blanks rest, line = mark ++ (blanks ++ (fence ++ (text ++ (fence ++ rest))))
    ∧ (∀ c ∈ blanks, isBlank c = true) ∧ ∀ c ∈ text, c ∉ fence

/-- The text between the fences of a bullet. -/
def bulletText? (fence line : List Char) : Option (List Char) := do
  let s ← afterBullet? line
  let s ← strip? fence s
  let _ ← strip? fence (s.dropWhile (· ∉ fence))
  return s.takeWhile (· ∉ fence)

/-- Fences are not mistaken for what is between them or in front of them. -/
structure IsFence (fence : List Char) : Prop where
  nonempty : fence ≠ []
  apart : ∀ c ∈ fence, isWordOrBlank c = false

theorem IsFence.of_all {fence : List Char} (hne : fence ≠ [])
    (hall : fence.all (!isWordOrBlank ·) = true) : IsFence fence :=
  ⟨hne, fun c hc => by simpa using List.all_eq_true.1 hall c hc⟩

theorem isFence_bold : IsFence bold := .of_all (by decide) (by decide)

theorem isFence_code : IsFence code := .of_all (by decide) (by decide)

variable {fence line text : List Char}

theorem isWordOrBlank_of_isBlank {c : Char} (h : isBlank c = true) : isWordOrBlank c = true := by
  simp only [isWordOrBlank, h, Bool.or_true]

/-- A text that starts with a fence starts with no blank, and with none of its own tokens. -/
theorem IsFence.head?_append (h : IsFence fence) (rest : List Char) :
    ∃ c ∈ fence, (fence ++ rest).head? = some c ∧ isWordOrBlank c = false := by
  obtain ⟨c, cs, rfl⟩ := List.exists_cons_of_ne_nil h.nonempty
  exact ⟨c, List.mem_cons_self, rfl, h.apart c List.mem_cons_self⟩

/-- Behind the mark the blanks are passed. -/
theorem eq_append_of_afterBullet? {s : List Char} (h : afterBullet? line = some s) :
    ∃ mark ∈ marks, ∃ blanks, line = mark ++ (blanks ++ s) ∧ ∀ c ∈ blanks, isBlank c = true := by
  have hpass (mark : List Char) (hmark : mark ∈ marks) {t : List Char}
      (ht : some (t.dropWhile isBlank) = some s) : ∃ mark' ∈ marks, ∃ blanks,
        mark ++ t = mark' ++ (blanks ++ s) ∧ ∀ c ∈ blanks, isBlank c = true := by
    refine ⟨mark, hmark, t.takeWhile isBlank, ?_, fun _ => List.mem_takeWhile_imp⟩
    rw [← Option.some.inj ht, List.takeWhile_append_dropWhile]
  rw [afterBullet?.eq_def] at h
  split at h
  · exact hpass ['\\', '*'] (by decide) h
  · exact hpass ['*'] (by decide) h
  · exact hpass ['-'] (by decide) h
  · exact absurd h (by simp)

theorem afterBullet?_append {mark blanks s : List Char} (hmark : mark ∈ marks)
    (hblanks : ∀ c ∈ blanks, isBlank c = true) (hs : ∀ c ∈ s.head?, isBlank c = false) :
    afterBullet? (mark ++ (blanks ++ s)) = some s := by
  have hpass : (blanks ++ s).dropWhile isBlank = s := (Text.dropWhile_append_of_head? hblanks hs).1
  simp only [marks, List.mem_cons, List.not_mem_nil, or_false] at hmark
  rcases hmark with rfl | rfl | rfl <;> simp [afterBullet?, hpass]

/-- Where a fence follows the mark, a bullet is read behind it. -/
theorem bullet_read (hfence : IsFence fence) {mark blanks : List Char} (hmark : mark ∈ marks)
    (hblanks : ∀ c ∈ blanks, isBlank c = true) (rest : List Char) :
    afterBullet? (mark ++ (blanks ++ (fence ++ rest))) = some (fence ++ rest) := by
  apply afterBullet?_append hmark hblanks
  intro c hc
  obtain ⟨d, -, hd, hapart⟩ := hfence.head?_append rest
  obtain rfl := Option.some.inj (hd.symm.trans hc)
  exact Bool.eq_false_iff.2 fun hblank =>
    absurd (isWordOrBlank_of_isBlank hblank) (by simp [hapart])

/-- The text of a bullet is what it sets between its fences. -/
theorem bulletText?_eq_some_iff (hfence : IsFence fence) :
    bulletText? fence line = some text ↔ IsBullet fence line text := by
  simp only [bulletText?, Option.bind_eq_bind, Option.bind_eq_some_iff, Option.pure_def,
    Option.some.injEq]
  constructor
  · rintro ⟨s, hafter, t, hopen, rest, hclose, rfl⟩
    obtain ⟨mark, hmark, blanks, rfl, hblanks⟩ := eq_append_of_afterBullet? hafter
    refine ⟨mark, hmark, blanks, rest, ?_, hblanks, ?_⟩
    · rw [Text.eq_append_of_strip? hopen, ← Text.eq_append_of_strip? hclose,
        List.takeWhile_append_dropWhile]
    · intro c hc
      simpa using List.mem_takeWhile_imp hc
  · rintro ⟨mark, hmark, blanks, rest, rfl, hblanks, htext⟩
    have hends : ∀ c ∈ (fence ++ rest).head?, decide (c ∉ fence) = false := by
      intro c hc
      obtain ⟨d, hmem, hd, -⟩ := hfence.head?_append rest
      obtain rfl := Option.some.inj (hd.symm.trans hc)
      simpa using hmem
    obtain ⟨hdrop, htake⟩ := Text.dropWhile_append_of_head?
      (fun c hc => decide_eq_true (htext c hc)) hends
    refine ⟨_, bullet_read hfence hmark hblanks _, _, Text.strip?_append _ _, rest, ?_, htake⟩
    rw [hdrop, Text.strip?_append]

/-! ### Tokens -/

/-- What the matchers take for a token. -/
def isSpelled (text : List Char) : Bool := !text.isEmpty && text.all isWordOrBlank

/-- Whether a bullet documents anything. -/
def isToken (text : List Char) : Bool := text.any fun c => !isBlank c

/-- The words of a bullet are its text if that is spelled in word characters and blanks. -/
theorem bulletWords?_eq (hfence : IsFence fence) (line : List Char) :
    bulletWords? fence line = ((bulletText? fence line).filter isSpelled).map trim := by
  apply Option.ext
  intro words
  simp only [Option.map_eq_some_iff, Option.filter_eq_some_iff, bulletText?_eq_some_iff hfence,
    bulletWords?, Option.bind_eq_bind, Option.bind_eq_some_iff, Option.pure_def,
    Option.some.injEq, isSpelled, Bool.and_eq_true, Bool.not_eq_true', List.isEmpty_eq_false_iff,
    List.all_eq_true]
  constructor
  · rintro ⟨s, hafter, t, hopen, ⟨run, u⟩, hrun, rest, hclose, rfl⟩
    obtain ⟨mark, hmark, blanks, rfl, hblanks⟩ := eq_append_of_afterBullet? hafter
    obtain ⟨hne, hclass, rfl⟩ := Text.of_run?_eq_some hrun
    refine ⟨run, ⟨⟨mark, hmark, blanks, rest, ?_, hblanks, ?_⟩, hne, hclass⟩, rfl⟩
    · rw [Text.eq_append_of_strip? hopen, ← Text.eq_append_of_strip? hclose]
    · exact fun c hc hmem => absurd (hclass c hc) (by simp [hfence.apart c hmem])
  · rintro ⟨run, ⟨⟨mark, hmark, blanks, rest, rfl, hblanks, -⟩, hne, hclass⟩, rfl⟩
    refine ⟨_, bullet_read hfence hmark hblanks _, _, Text.strip?_append _ _,
      (run, fence ++ rest), ?_, rest, Text.strip?_append _ _, rfl⟩
    apply Text.run?_append hne hclass
    intro c hc
    obtain ⟨d, -, hd, hapart⟩ := hfence.head?_append rest
    exact Option.some.inj (hd.symm.trans hc) ▸ hapart

/-- The texts of all bullets, line by line. -/
def bulletTexts (fence description : List Char) : List (List Char) :=
  (lines description).filterMap (bulletText? fence)

/-- What a description documents: the texts of its bullets, trimmed, but for blank ones. -/
def documented (fence description : List Char) : List (List Char) :=
  ((bulletTexts fence description).filter isToken).map trim

/-- Every text of a bullet is nothing at all, or words to take. -/
def IsPlain (fence description : List Char) : Prop :=
  ∀ line ∈ lines description, ∀ text, IsBullet fence line text →
    text = [] ∨ (isToken text = true ∧ ∀ c ∈ text, isWordOrBlank c = true)

theorem bullets_eq (hfence : IsFence fence) (description : List Char) :
    bullets fence description = ((bulletTexts fence description).filter isSpelled).map trim := by
  have hwords := funext (bulletWords?_eq hfence)
  rw [bullets, hwords, bulletTexts, List.filter_filterMap, List.map_filterMap]

theorem trim_eq_nil_iff {text : List Char} : trim text = [] ↔ isToken text = false := by
  have hstart : (text.dropWhile isBlank).all isBlank = text.all isBlank := by
    calc (text.dropWhile isBlank).all isBlank
      _ = (text.takeWhile isBlank ++ text.dropWhile isBlank).all isBlank := by
        rw [List.all_append, List.all_takeWhile, Bool.true_and]
      _ = text.all isBlank := by rw [List.takeWhile_append_dropWhile]
  rw [trim, Text.trimStart, Text.trimEnd_eq_nil_iff, hstart, isToken]
  simp

/-- Only of blank texts and of texts with other characters the matchers think differently. -/
theorem isSpelled_eq_isToken_iff : isSpelled text = isToken text ↔
    text = [] ∨ (isToken text = true ∧ ∀ c ∈ text, isWordOrBlank c = true) := by
  by_cases hempty : text = []
  · simp [hempty, isSpelled, isToken]
  have hspelled : isSpelled text = true ↔ ∀ c ∈ text, isWordOrBlank c = true := by
    simp [isSpelled, hempty]
  by_cases htoken : isToken text = true
  · simp only [htoken, hempty, hspelled, false_or, true_and]
  · have hblank : ∀ c ∈ text, isBlank c = true := by simpa [isToken] using htoken
    have htaken := hspelled.2 fun c hc => isWordOrBlank_of_isBlank (hblank c hc)
    exact iff_of_false (fun h => htoken (h ▸ htaken)) (by simp [hempty, htoken])

theorem isPlain_iff (hfence : IsFence fence) {description : List Char} :
    IsPlain fence description ↔
      ∀ text ∈ bulletTexts fence description, isSpelled text = isToken text := by
  simp only [IsPlain, bulletTexts, List.mem_filterMap, isSpelled_eq_isToken_iff,
    bulletText?_eq_some_iff hfence, forall_exists_index, and_imp]
  exact ⟨fun h text line hline => h line hline text, fun h line hline text => h text line hline⟩

/-- The matchers take what is documented if every bullet is plain, and never by chance. -/
theorem bullets_eq_documented_iff (hfence : IsFence fence) (description : List Char) :
    bullets fence description = documented fence description ↔ IsPlain fence description := by
  rw [bullets_eq hfence, documented, isPlain_iff hfence]
  constructor
  · intro h
    -- a blank text would be taken for a token without characters, and none is documented
    have htoken : ∀ text ∈ bulletTexts fence description, isSpelled text = true →
        isToken text = true := by
      intro text htext hspelled
      have hmem := List.mem_map_of_mem (f := trim) (List.mem_filter.2 ⟨htext, hspelled⟩)
      rw [h] at hmem
      obtain ⟨u, hu, htrim⟩ := List.mem_map.1 hmem
      by_contra hblank
      have hnil : trim u = [] := htrim.trans (trim_eq_nil_iff.2 (Bool.not_eq_true _ ▸ hblank))
      exact absurd (List.mem_filter.1 hu).2 (by simp [trim_eq_nil_iff.1 hnil])
    -- so no token is left out, as then fewer would be taken
    have hfilter : (bulletTexts fence description).filter isSpelled =
        ((bulletTexts fence description).filter isToken).filter isSpelled := by
      rw [List.filter_filter]
      apply List.filter_congr
      intro text htext
      by_cases hspelled : isSpelled text = true
      · simp [hspelled, htoken text htext hspelled]
      · simp [hspelled]
    have hlength := congrArg List.length h
    rw [List.length_map, List.length_map, hfilter, List.length_filter_eq_length_iff] at hlength
    intro text htext
    apply Bool.eq_iff_iff.2
    exact ⟨htoken text htext, fun h => hlength text (List.mem_filter.2 ⟨htext, h⟩)⟩
  · intro h
    rw [List.filter_congr h]

/-! ### What the matchers make of a description -/

def announcesValues (description : List Char) : Bool :=
  Text.has "of the following".toList description || Text.has "ossible values".toList description

def announcesFields (description : List Char) : Bool :=
  Text.has "the following fields".toList description

theorem values_eq {description : List Char} (h : announcesValues description = true) :
    values description = bullets bold description := if_pos h

theorem fieldNames_eq {description : List Char} (h : announcesFields description = true) :
    fieldNames description = bullets code description := if_pos h

end ClientScribe.Clue

namespace ClientScribe

open Clue

/-- The type with the texts as its values. -/
def TypeNode.withValues (texts : List (List Char)) (n : TypeNode) : TypeNode :=
  { n with possibleValues := some (texts.map String.ofList) }

/-- The type with fields named by the texts. -/
def TypeNode.withFields (texts : List (List Char)) (n : TypeNode) : TypeNode :=
  { n with fields := some (texts.map TypeField.named) }

/-- Where texts are put into a type if there are any, the types that result tell the texts. -/
theorem forall_put_iff {put : List (List Char) → TypeNode → TypeNode} {blank : TypeNode}
    (hput : ∀ texts others, put texts blank = put others blank → texts = others)
    (hblank : ∀ texts, put texts blank ≠ blank) {found texts : List (List Char)}
    (hne : texts ≠ []) :
    (∀ n, (if found = [] then n else put found n) = put texts n) ↔ found = texts := by
  constructor
  · intro h
    have hfound := h blank
    by_cases hnil : found = []
    · rw [if_pos hnil] at hfound
      exact absurd hfound.symm (hblank texts)
    · rw [if_neg hnil] at hfound
      exact hput found texts hfound
  · rintro rfl n
    exact if_neg hne

theorem Refinement.possibleValues_apply (description : String) (n : TypeNode) :
    Refinement.possibleValues.apply description n =
      if values description.toList = [] then n else n.withValues (values description.toList) := by
  rw [apply]
  cases values description.toList <;> rfl

theorem Refinement.objectFields_apply (description : String) (n : TypeNode) :
    Refinement.objectFields.apply description n =
      if fieldNames description.toList = [] then n
      else n.withFields (fieldNames description.toList) := by
  rw [apply]
  cases fieldNames description.toList <;> rfl

/-- The values that a matcher finds are what is documented exactly if every bullet is plain. -/
theorem Refinement.possibleValues_apply_iff {description : String}
    (hannounced : announcesValues description.toList = true)
    (hne : documented bold description.toList ≠ []) :
    (∀ n, Refinement.possibleValues.apply description n =
      n.withValues (documented bold description.toList)) ↔ IsPlain bold description.toList := by
  simp only [possibleValues_apply, values_eq hannounced,
    ← bullets_eq_documented_iff isFence_bold]
  refine @forall_put_iff TypeNode.withValues (.plain "string") ?_ ?_ _ _ hne
  · intro texts others h
    have hvalues := Option.some.inj (congrArg TypeNode.possibleValues h)
    exact (List.map_inj_right fun _ _ => String.ofList_injective).1 hvalues
  · exact fun texts h => nomatch congrArg TypeNode.possibleValues h

theorem Refinement.objectFields_apply_iff {description : String}
    (hannounced : announcesFields description.toList = true)
    (hne : documented code description.toList ≠ []) :
    (∀ n, Refinement.objectFields.apply description n =
      n.withFields (documented code description.toList)) ↔ IsPlain code description.toList := by
  simp only [objectFields_apply, fieldNames_eq hannounced,
    ← bullets_eq_documented_iff isFence_code]
  refine @forall_put_iff TypeNode.withFields (.plain "object") ?_ ?_ _ _ hne
  · intro texts others h
    have hfields := Option.some.inj (congrArg TypeNode.fields h)
    exact (List.map_inj_right fun _ _ hname =>
      String.ofList_injective (congrArg TypeField.name hname)).1 hfields
  · exact fun texts h => nomatch congrArg TypeNode.fields h

/-- A matcher takes all that a description documents, and nothing else, exactly if every bullet is
plain; then the union of values that is written lacks none. -/
theorem Refinement.takes_documented_iff (description : String) :
    (announcesValues description.toList = true → documented bold description.toList ≠ [] →
      ((∀ n, Refinement.possibleValues.apply description n =
        n.withValues (documented bold description.toList)) ↔ IsPlain bold description.toList)
      ∧ (IsPlain bold description.toList → ∀ references n, n.tag = "string" → n.startsWith = none →
        Client.nodeText references (Refinement.possibleValues.apply description n) =
          Client.literalUnion ((documented bold description.toList).map String.ofList)))
    ∧ (announcesFields description.toList = true → documented code description.toList ≠ [] →
      ((∀ n, Refinement.objectFields.apply description n =
        n.withFields (documented code description.toList)) ↔ IsPlain code description.toList)) := by
  refine ⟨fun hannounced hne => ?_, fun hannounced hne => objectFields_apply_iff hannounced hne⟩
  refine ⟨possibleValues_apply_iff hannounced hne, ?_⟩
  intro hplain references n htag hstart
  rw [(possibleValues_apply_iff hannounced hne).2 hplain]
  obtain ⟨tag, startsWith, possibleValues, fields, id, arrayTypes⟩ := n
  simp only at htag hstart
  subst htag hstart
  obtain ⟨text, texts, htexts⟩ := List.exists_cons_of_ne_nil hne
  rw [htexts]
  rfl

/-- Escaped bullets with values of one and two words, and bullets with names of fields. -/
theorem plain_bullets_taken :
    (∀ n, Refinement.possibleValues.apply
        "Possible values:\n\\* **card**\n\\* **bank transfer**" n =
      n.withValues ["card".toList, "bank transfer".toList])
    ∧ ∀ n, Refinement.objectFields.apply "Contains the following fields:\n* `id`\n* `type`" n =
      n.withFields ["id".toList, "type".toList] := by
  constructor
  · have hdocumented : documented bold
        "Possible values:\n\\* **card**\n\\* **bank transfer**".toList =
          ["card".toList, "bank transfer".toList] := by decide
    have htaken := (Refinement.takes_documented_iff
      "Possible values:\n\\* **card**\n\\* **bank transfer**").1 (by decide)
    rw [hdocumented] at htaken
    exact (htaken (List.cons_ne_nil _ _)).1.2 ((isPlain_iff isFence_bold).2 (by decide))
  · have hdocumented : documented code
        "Contains the following fields:\n* `id`\n* `type`".toList =
          ["id".toList, "type".toList] := by decide
    have htaken := (Refinement.takes_documented_iff
      "Contains the following fields:\n* `id`\n* `type`").2 (by decide)
    rw [hdocumented] at htaken
    exact (htaken (List.cons_ne_nil _ _)).2 ((isPlain_iff isFence_code).2 (by decide))

/-- A value with a hyphen is documented, but missing among the values and in the union. -/
theorem hyphenated_value_missing :
    announcesValues "One of the following:\n- **card**\n- **bank-transfer**".toList = true
    ∧ documented bold "One of the following:\n- **card**\n- **bank-transfer**".toList =
      ["card".toList, "bank-transfer".toList]
    ∧ Refinement.possibleValues.apply "One of the following:\n- **card**\n- **bank-transfer**"
        (.plain "string") = (TypeNode.plain "string").withValues ["card".toList]
    ∧ ¬ ∀ n, Refinement.possibleValues.apply
        "One of the following:\n- **card**\n- **bank-transfer**" n =
          n.withValues (documented bold
            "One of the following:\n- **card**\n- **bank-transfer**".toList) := by
  have hdocumented : documented bold
      "One of the following:\n- **card**\n- **bank-transfer**".toList =
        ["card".toList, "bank-transfer".toList] := by decide
  have hvalues : values "One of the following:\n- **card**\n- **bank-transfer**".toList =
      ["card".toList] := by decide
  have hmissing : Refinement.possibleValues.apply
      "One of the following:\n- **card**\n- **bank-transfer**" (.plain "string") =
        (TypeNode.plain "string").withValues ["card".toList] := by
    rw [Refinement.possibleValues_apply, hvalues, if_neg (List.cons_ne_nil _ _)]
  refine ⟨by decide, hdocumented, hmissing, ?_⟩
  intro h
  have hall := h (.plain "string")
  rw [hmissing, hdocumented] at hall
  exact absurd (congrArg (fun n => n.possibleValues.map List.length) hall) (by decide)

end ClientScribe
