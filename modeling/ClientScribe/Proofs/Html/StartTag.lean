import ClientScribe.Proofs.Html.Escape
import ClientScribe.Proofs.Text.Occurrence

/-!
The texts of start tags: a name, and attributes that have no value, a value in quotes, or one
without.  Every such text is read as its tag, whatever stands behind it.
-/

namespace ClientScribe.Html

open Text (isBlank)

/-- A start tag with its values as they are written. -/
structure WrittenTag where
  name : String
  attributes : List (String × List Char)
  selfClosing : Bool

/-- The tag with the references in its values replaced. -/
def WrittenTag.read (t : WrittenTag) : StartTag where
  name := t.name
  attributes := t.attributes.map fun a => (a.1, String.ofList (unescape a.2))
  selfClosing := t.selfClosing

/-- The value of an attribute as it is written. -/
def WrittenTag.written? (t : WrittenTag) (name : String) : Option (List Char) :=
  t.attributes.reverse.lookup name

theorem WrittenTag.value?_read (t : WrittenTag) (name : String) :
    t.read.value? name = (t.written? name).map fun raw => String.ofList (unescape raw) := by
  have hlookup (attributes : List (String × List Char)) :
      (attributes.map fun a => (a.1, String.ofList (unescape a.2))).lookup name =
        (attributes.lookup name).map fun raw => String.ofList (unescape raw) := by
    induction attributes with
    | nil => rfl
    | cons a attributes ih =>
      rw [List.map_cons, List.lookup_cons, List.lookup_cons, ih]
      cases name == a.1 <;> rfl
  rw [StartTag.value?, WrittenTag.read, ← List.map_reverse, hlookup, WrittenTag.written?]

/-! ### The texts -/

/-- The blanks of markup: tab, line feed, form feed, carriage return and space. -/
def blanks : List Char := ['\t', '\n', '\x0c', '\r', ' ']

def IsBlanks (g : List Char) : Prop := ∀ c ∈ g, c ∈ blanks

instance (g : List Char) : Decidable (IsBlanks g) := List.decidableBAll (· ∈ blanks) g

def IsAttributeName (name : List Char) : Prop :=
  name ≠ [] ∧ ∀ c ∈ name, isAttributeName c = true

instance (name : List Char) : Decidable (IsAttributeName name) :=
  have := List.decidableBAll (isAttributeName · = true) name
  instDecidableAnd

/-- A value that may stand without quotes. -/
def IsBareValue (raw : List Char) : Prop :=
  (∀ c ∈ raw, isBareValue c = true) ∧ ∃ c ∈ raw.head?, isQuote c = false ∧ c ≠ '='

/-- The texts of attributes; `bare` says that the value stands at the end without quotes. -/
inductive SpellsAttribute : (bare : Bool) → List Char → String × List Char → Prop
  | empty {name : List Char} (hname : IsAttributeName name) :
    SpellsAttribute false name (String.ofList (Text.lower name), [])
  | quoted {name g g' raw : List Char} {q : Char} (hname : IsAttributeName name)
    (hg : IsBlanks g) (hg' : IsBlanks g') (hq : isQuote q = true) (hraw : q ∉ raw) :
    SpellsAttribute false (name ++ (g ++ '=' :: (g' ++ q :: (raw ++ [q]))))
      (String.ofList (Text.lower name), raw)
  | bare {name g g' raw : List Char} (hname : IsAttributeName name)
    (hg : IsBlanks g) (hg' : IsBlanks g') (hraw : IsBareValue raw) :
    SpellsAttribute true (name ++ (g ++ '=' :: (g' ++ raw))) (String.ofList (Text.lower name), raw)

/-- The end of a tag. -/
def tagClose (selfClosing : Bool) : List Char := if selfClosing then ['/', '>'] else ['>']

/-- The texts of attributes and the end of the tag, with blanks in front of each attribute.  Behind
a value without quotes blanks stand in front of the slash too. -/
inductive SpellsAttributes (selfClosing : Bool) :
    (behindBare : Bool) → List Char → List (String × List Char) → Prop
  | close {behindBare : Bool} {g : List Char} (hg : IsBlanks g)
    (hslash : behindBare = true → selfClosing = true → g ≠ []) :
    SpellsAttributes selfClosing behindBare (g ++ tagClose selfClosing) []
  | more {behindBare bare : Bool} {g a s : List Char} {x : String × List Char}
    {xs : List (String × List Char)} (hg : IsBlanks g) (hne : g ≠ [])
    (ha : SpellsAttribute bare a x) (others : SpellsAttributes selfClosing bare s xs) :
    SpellsAttributes selfClosing behindBare (g ++ (a ++ s)) (x :: xs)

/-- The texts of start tags behind their `<`.  No value has a reference of too many digits. -/
inductive SpellsTag : List Char → WrittenTag → Prop
  | mk {c : Char} {name s : List Char} {xs : List (String × List Char)} {selfClosing : Bool}
    (hletter : c.isAlpha = true) (hname : ∀ d ∈ c :: name, endsTagName d = false)
    (hs : SpellsAttributes selfClosing false s xs) (hshort : ∀ x ∈ xs, longRef? x.2 = none) :
    SpellsTag (c :: name ++ s) ⟨String.ofList (Text.lower (c :: name)), xs, selfClosing⟩

section

variable {c d : Char} {s rest g name raw a : List Char} {bare selfClosing : Bool}
  {x : String × List Char} {xs : List (String × List Char)}

/-! ### Blanks -/

theorem isBlank_of_mem_blanks (hc : c ∈ blanks) : isBlank c = true :=
  List.all_eq_true.1 (show blanks.all isBlank = true by decide) c hc

theorem endsTagName_of_mem_blanks (hc : c ∈ blanks) : endsTagName c = true :=
  List.all_eq_true.1 (show blanks.all endsTagName = true by decide) c hc

theorem ne_sign_of_mem_blanks (hc : c ∈ blanks) : c ≠ '=' := by
  rintro rfl
  exact absurd (isBlank_of_mem_blanks hc) (by decide)

/-- What holds of blanks and of the start of a text holds where blanks stand in front of it. -/
theorem IsBlanks.head?_append {P : Char → Prop} (hg : IsBlanks g) (hblanks : ∀ c ∈ blanks, P c)
    (hs : ∀ c ∈ s.head?, P c) : ∀ c ∈ (g ++ s).head?, P c := by
  cases g with
  | nil => exact hs
  | cons d g =>
    intro c hc
    rw [← Option.some.inj hc]
    exact hblanks d (hg d List.mem_cons_self)

theorem IsBlanks.dropWhile_append (hg : IsBlanks g) (hrest : ∀ c ∈ rest.head?, isBlank c = false) :
    (g ++ rest).dropWhile isBlank = rest :=
  (Text.dropWhile_append_of_head? (fun c hc => isBlank_of_mem_blanks (hg c hc)) hrest).1

theorem IsBlanks.dropWhile_append_cons (hg : IsBlanks g) (hc : isBlank c = false)
    (s : List Char) : (g ++ c :: s).dropWhile isBlank = c :: s := by
  apply hg.dropWhile_append
  intro d hd
  rw [← Option.some.inj hd]
  exact hc

theorem skipGap_of_isBlank (hc : isBlank c = true) : skipGap (c :: s) = skipGap s := by
  rw [skipGap]
  · rw [if_pos (by simp [hc])]
  · rintro rest rfl -
    exact absurd hc (by decide)

theorem skipGap_append (hg : IsBlanks g) : skipGap (g ++ s) = skipGap s := by
  induction g with
  | nil => rfl
  | cons c g ih =>
    have hc := isBlank_of_mem_blanks (hg c List.mem_cons_self)
    rw [List.cons_append, skipGap_of_isBlank hc, ih fun d hd => hg d (List.mem_cons_of_mem c hd)]

theorem skipGap_of_startsAttribute (hc : startsAttribute c = true) : skipGap (c :: s) = c :: s := by
  simp only [startsAttribute, Bool.not_eq_true', Bool.or_eq_false_iff,
    decide_eq_false_iff_not] at hc
  rw [skipGap]
  · rw [if_neg (by simp [hc])]
  · rintro rest rfl -
    exact hc.1.2 rfl

theorem length_skipGap_le (s : List Char) : (skipGap s).length ≤ s.length := by
  induction s using skipGap.induct with
  | case1 => exact Nat.le_refl _
  | case2 => exact Nat.le_refl _
  | case3 c s hslash hc ih =>
    rw [skipGap, if_pos hc]
    · exact Nat.le_succ_of_le ih
    · exact hslash
  | case4 c s hslash hc =>
    rw [skipGap, if_neg hc]
    exact hslash

/-- Blanks in front of something are passed. -/
theorem length_skipGap_lt (hg : IsBlanks g) (hne : g ≠ []) :
    (skipGap (g ++ s)).length < (g ++ s).length := by
  have hpos := List.length_pos_iff.2 hne
  have hle := length_skipGap_le s
  rw [skipGap_append hg, List.length_append]
  omega

theorem skipGap_tagClose (selfClosing : Bool) (rest : List Char) :
    skipGap (tagClose selfClosing ++ rest) = tagClose selfClosing ++ rest := by
  cases selfClosing <;> rfl

/-! ### Attributes -/

theorem not_isAttributeName_of_mem_blanks (hc : c ∈ blanks) : isAttributeName c = false := by
  simp [isAttributeName, startsAttribute, isBlank_of_mem_blanks hc]

theorem startsAttribute_of_isAttributeName (hc : isAttributeName c = true) :
    startsAttribute c = true ∧ c ≠ '=' := by
  simpa [isAttributeName] using hc

theorem IsAttributeName.head (hname : IsAttributeName name) :
    ∃ c t, name = c :: t ∧ isAttributeName c = true := by
  obtain ⟨c, t, rfl⟩ := List.exists_cons_of_ne_nil hname.1
  exact ⟨c, t, rfl, hname.2 c List.mem_cons_self⟩

theorem SpellsAttribute.head (ha : SpellsAttribute bare a x) :
    ∃ c t, a = c :: t ∧ isAttributeName c = true := by
  cases ha with
  | empty hname => exact hname.head
  | quoted hname =>
    obtain ⟨c, t, rfl, hc⟩ := hname.head
    exact ⟨c, _, rfl, hc⟩
  | bare hname =>
    obtain ⟨c, t, rfl, hc⟩ := hname.head
    exact ⟨c, _, rfl, hc⟩

/-- What stands behind a name or a value: a blank or the end of the tag. -/
theorem SpellsAttributes.head (hs : SpellsAttributes selfClosing bare s xs) :
    ∃ c t, s = c :: t ∧ (c ∈ blanks ∨ c = '>' ∨ c = '/' ∧ bare = false) := by
  have hgap {g s : List Char} (hg : IsBlanks g) (hne : g ≠ []) :
      ∃ c t, g ++ s = c :: t ∧ (c ∈ blanks ∨ c = '>' ∨ c = '/' ∧ bare = false) := by
    obtain ⟨c, g, rfl⟩ := List.exists_cons_of_ne_nil hne
    exact ⟨c, _, rfl, .inl (hg c List.mem_cons_self)⟩
  cases hs with
  | more hg hne => exact hgap hg hne
  | @close _ g hg hslash =>
    by_cases hne : g = []
    · subst hne
      cases selfClosing with
      | false => exact ⟨'>', _, rfl, .inr (.inl rfl)⟩
      | true =>
        refine ⟨'/', _, rfl, .inr (.inr ⟨rfl, ?_⟩)⟩
        exact Bool.not_eq_true _ ▸ fun hbare => hslash hbare rfl rfl
    · exact hgap hg hne

theorem value?_of_sign (hg : IsBlanks g) (hs : ∀ c ∈ s.head?, c ≠ '=') :
    value? (g ++ '=' :: s) = valueBehind? 1 s := by
  have hsigns : ('=' :: s).takeWhile (fun c => decide (c = '=')) = ['='] := by
    rw [List.takeWhile_cons_of_pos (by simp)]
    cases s with
    | nil => rfl
    | cons c s => rw [List.takeWhile_cons_of_neg (by simpa using hs c rfl)]
  rw [value?]
  simp only [hg.dropWhile_append_cons (show isBlank '=' = false by decide), hsigns]
  rfl

/-- There is no value where no sign stands behind the blanks. -/
theorem value?_eq_none (hs : ∀ c ∈ (s.dropWhile isBlank).head?, c ≠ '=') : value? s = none := by
  rw [value?]
  cases hdrop : s.dropWhile isBlank with
  | nil => rfl
  | cons c t =>
    rw [hdrop] at hs
    rw [List.takeWhile_cons_of_neg (by simpa using hs c rfl)]

theorem not_isBlank_of_isQuote {q : Char} (hq : isQuote q = true) :
    isBlank q = false ∧ q ≠ '=' ∧ isAttributeName q = true := by
  simp only [isQuote, Bool.or_eq_true, decide_eq_true_eq] at hq
  rcases hq with rfl | rfl <;> decide

/-- A value in quotes is what stands between them. -/
theorem valueBehind?_quoted {q : Char} (hg : IsBlanks g) (hq : isQuote q = true) (hraw : q ∉ raw) :
    valueBehind? 1 (g ++ q :: (raw ++ q :: rest)) = some (raw, rest) := by
  obtain ⟨hdrop, htake⟩ := Text.takeWhile_ne_append hraw rest
  rw [valueBehind?, hg.dropWhile_append_cons (not_isBlank_of_isQuote hq).1]
  simp only [hq, Bool.not_true, Bool.false_eq_true, ↓reduceIte, List.contains_eq_mem,
    List.mem_append, List.mem_cons, true_or, or_true, decide_true]
  rw [htake, hdrop]
  rfl

/-- A value without quotes ends at a blank or the end of the tag. -/
theorem valueBehind?_bare (hg : IsBlanks g) (hraw : IsBareValue raw)
    (hrest : ∀ c ∈ rest.head?, isBareValue c = false) :
    valueBehind? 1 (g ++ (raw ++ rest)) = some (raw, rest) := by
  obtain ⟨hbare, c, hc, hquote, -⟩ := hraw
  obtain ⟨hdrop, htake⟩ := Text.dropWhile_append_of_head? hbare hrest
  obtain ⟨t, rfl⟩ := List.head?_eq_some_iff.1 hc
  have hblank : ∀ d ∈ (c :: t ++ rest).head?, isBlank d = false := by
    intro d hd
    rw [← Option.some.inj hd]
    have hc := hbare c List.mem_cons_self
    simp only [isBareValue, Bool.not_eq_true', Bool.or_eq_false_iff] at hc
    exact hc.1
  rw [valueBehind?, hg.dropWhile_append hblank, List.cons_append]
  simp only [hquote, Bool.not_false, ↓reduceIte]
  rw [bareValue, ← List.cons_append, htake, hdrop]

/-- An attribute is read by its name; then comes its value, or none. -/
theorem attribute?_named (hname : IsAttributeName name)
    (hrest : ∀ c ∈ rest.head?, isAttributeName c = false) :
    attribute? (name ++ rest) = some (match value? rest with
      | none => ((String.ofList (Text.lower name), []), skipGap rest,
          decide ((skipGap rest).length < rest.length) || endsOpen name)
      | some (value, rest) => ((String.ofList (Text.lower name), value), skipGap rest, true)) := by
  obtain ⟨c, t, rfl, hc⟩ := hname.head
  obtain ⟨hdrop, htake⟩ := Text.dropWhile_append_of_head?
    (fun d hd => hname.2 d (List.mem_cons_of_mem c hd)) hrest
  rw [List.cons_append, attribute?, if_neg (by simp [(startsAttribute_of_isAttributeName hc).1])]
  simp only [hdrop, htake]
  split <;> simp only [*]

/-- What holds of blanks and of the end of a tag holds of what stands behind a name or a value. -/
theorem SpellsAttributes.head?_append {P : Char → Prop}
    (hs : SpellsAttributes selfClosing bare s xs) (hblanks : ∀ c ∈ blanks, P c) (hclose : P '>')
    (hslash : bare = false → P '/') (rest : List Char) : ∀ c ∈ (s ++ rest).head?, P c := by
  intro c hc
  obtain ⟨d, t, rfl, hd⟩ := hs.head
  obtain rfl := Option.some.inj hc
  rcases hd with hd | rfl | ⟨rfl, hbare⟩
  · exact hblanks d hd
  · exact hclose
  · exact hslash hbare

theorem SpellsAttributes.not_isAttributeName (hs : SpellsAttributes selfClosing bare s xs)
    (rest : List Char) : ∀ c ∈ (s ++ rest).head?, isAttributeName c = false :=
  hs.head?_append (fun _ => not_isAttributeName_of_mem_blanks) (by decide) (fun _ => by decide) rest

theorem SpellsAttributes.not_isBareValue (hs : SpellsAttributes selfClosing true s xs)
    (rest : List Char) : ∀ c ∈ (s ++ rest).head?, isBareValue c = false := by
  refine hs.head?_append ?_ (by decide) (fun hbare => absurd hbare (by decide)) rest
  intro c hc
  simp [isBareValue, isBlank_of_mem_blanks hc]

/-- No attribute and no end of a tag begins with a sign. -/
theorem SpellsAttributes.no_sign (hs : SpellsAttributes selfClosing bare s xs) (rest : List Char) :
    ∀ c ∈ ((s ++ rest).dropWhile isBlank).head?, c ≠ '=' := by
  have hbehind {g s : List Char} (hg : IsBlanks g)
      (hs : ∃ c t, s = c :: t ∧ isBlank c = false ∧ c ≠ '=') :
      ∀ c ∈ ((g ++ s).dropWhile isBlank).head?, c ≠ '=' := by
    obtain ⟨d, t, rfl, hd, hsign⟩ := hs
    rw [hg.dropWhile_append_cons hd]
    exact fun c hc => Option.some.inj hc ▸ hsign
  cases hs with
  | close hg =>
    rw [List.append_assoc]
    refine hbehind hg ?_
    cases selfClosing <;> exact ⟨_, _, rfl, by decide, by decide⟩
  | more hg _ ha =>
    obtain ⟨c, t, rfl, hc⟩ := ha.head
    obtain ⟨hstarts, hsign⟩ := startsAttribute_of_isAttributeName hc
    simp only [startsAttribute, Bool.not_eq_true', Bool.or_eq_false_iff] at hstarts
    rw [List.append_assoc, List.append_assoc]
    exact hbehind hg ⟨c, _, rfl, hstarts.1.1, hsign⟩

/-- In front of another attribute there is something to skip. -/
theorem SpellsAttributes.length_skipGap_lt (hs : SpellsAttributes selfClosing bare s xs)
    (hxs : xs ≠ []) (rest : List Char) : (skipGap (s ++ rest)).length < (s ++ rest).length := by
  cases hs with
  | close => exact absurd rfl hxs
  | more hg hne =>
    rw [List.append_assoc]
    exact Html.length_skipGap_lt hg hne

/-- An attribute is read from any of its texts, up to the next one. -/
theorem attribute?_spelled (ha : SpellsAttribute bare a x)
    (hs : SpellsAttributes selfClosing bare s xs) (rest : List Char) :
    ∃ mayStart, attribute? (a ++ (s ++ rest)) = some (x, skipGap (s ++ rest), mayStart)
      ∧ (xs ≠ [] → mayStart = true) := by
  have hend {g : List Char} (hg : IsBlanks g) (s : List Char) :
      ∀ c ∈ (g ++ '=' :: s).head?, isAttributeName c = false :=
    hg.head?_append (fun c hc => not_isAttributeName_of_mem_blanks hc)
      fun c hc => Option.some.inj hc ▸ by decide
  cases ha with
  | empty hn =>
    rw [attribute?_named hn (hs.not_isAttributeName rest), value?_eq_none (hs.no_sign rest)]
    refine ⟨_, rfl, fun hxs => ?_⟩
    rw [decide_eq_true (hs.length_skipGap_lt hxs rest), Bool.true_or]
  | @quoted name g g' raw q hn hg hg' hq hraw =>
    have hsign : ∀ c ∈ (g' ++ q :: (raw ++ q :: (s ++ rest))).head?, c ≠ '=' :=
      hg'.head?_append (fun c hc => ne_sign_of_mem_blanks hc)
        fun c hc => Option.some.inj hc ▸ (not_isBlank_of_isQuote hq).2.1
    refine ⟨true, ?_, fun _ => rfl⟩
    simp only [List.append_assoc, List.cons_append, List.nil_append]
    rw [attribute?_named hn (hend hg _), value?_of_sign hg hsign, valueBehind?_quoted hg' hq hraw]
  | @bare name g g' raw hn hg hg' hraw =>
    have hsign : ∀ c ∈ (g' ++ (raw ++ (s ++ rest))).head?, c ≠ '=' := by
      obtain ⟨-, c, hc, -, hsign⟩ := hraw
      obtain ⟨t, rfl⟩ := List.head?_eq_some_iff.1 hc
      exact hg'.head?_append (fun c hc => ne_sign_of_mem_blanks hc)
        fun d hd => Option.some.inj hd ▸ hsign
    refine ⟨true, ?_, fun _ => rfl⟩
    simp only [List.append_assoc, List.cons_append]
    rw [attribute?_named hn (hend hg _), value?_of_sign hg hsign,
      valueBehind?_bare hg' hraw (hs.not_isBareValue rest)]

/-! ### Tags -/

theorem attribute?_tagClose (selfClosing : Bool) (rest : List Char) :
    attribute? (tagClose selfClosing ++ rest) = none := by
  cases selfClosing <;> rfl

/-- The attributes of a tag are read one by one. -/
theorem attributes_spelled (hs : SpellsAttributes selfClosing bare s xs) (rest : List Char)
    {rounds : Nat} {mayStart : Bool} (hrounds : xs.length ≤ rounds)
    (hstart : xs ≠ [] → mayStart = true) :
    attributes rounds mayStart (skipGap (s ++ rest)) = (xs, tagClose selfClosing ++ rest) := by
  induction hs generalizing rounds mayStart with
  | close hg =>
    rw [List.append_assoc, Html.skipGap_append hg, skipGap_tagClose]
    cases rounds with
    | zero => rfl
    | succ rounds =>
      rw [attributes, attribute?_tagClose]
      split <;> rfl
  | more hg hne ha others ih =>
    obtain ⟨rounds, rfl⟩ := Nat.exists_eq_add_of_lt hrounds
    obtain ⟨c, t, rfl, hc⟩ := ha.head
    obtain ⟨next, hread, hnext⟩ := attribute?_spelled ha others rest
    rw [hstart (List.cons_ne_nil _ _), List.append_assoc, Html.skipGap_append hg,
      List.append_assoc]
    rw [List.cons_append] at hread ⊢
    rw [skipGap_of_startsAttribute (startsAttribute_of_isAttributeName hc).1, attributes]
    simp only [Bool.not_true, Bool.false_eq_true, ↓reduceIte, hread]
    rw [ih (by omega) hnext]

/-- An attribute has a character of its own. -/
theorem SpellsAttributes.length_le (hs : SpellsAttributes selfClosing bare s xs)
    (rest : List Char) : xs.length ≤ (skipGap (s ++ rest)).length := by
  induction hs with
  | close => exact Nat.zero_le _
  | @more _ bare g a s x xs hg hne ha others ih =>
    obtain ⟨c, t, rfl, hc⟩ := ha.head
    have hle := length_skipGap_le (s ++ rest)
    rw [List.append_assoc, Html.skipGap_append hg, List.append_assoc, List.cons_append,
      skipGap_of_startsAttribute (startsAttribute_of_isAttributeName hc).1]
    simp only [List.length_cons, List.length_append] at hle ih ⊢
    omega

theorem SpellsAttributes.endsTagName (hs : SpellsAttributes selfClosing bare s xs)
    (rest : List Char) : ∀ c ∈ (s ++ rest).head?, Html.endsTagName c = true :=
  hs.head?_append (fun _ => endsTagName_of_mem_blanks) (by decide) (fun _ => by decide) rest

theorem not_isUnfinished_tagClose (selfClosing : Bool) (rest : List Char) :
    isUnfinished (tagClose selfClosing ++ rest) = false := by
  cases selfClosing <;> rfl

theorem tagEnd_tagClose (t : WrittenTag) (rest : List Char) :
    tagEnd t.name t.attributes (tagClose t.selfClosing ++ rest) = .tag t.read rest := by
  obtain ⟨name, xs, selfClosing⟩ := t
  cases selfClosing <;> rfl

/-- A tag is read from any of its texts, and what stands behind it is left. -/
theorem startTag_spelled {t : WrittenTag} (h : SpellsTag s t) (rest : List Char) :
    startTag (s ++ rest) = .tag t.read rest := by
  obtain ⟨hletter, hname, hs, hshort⟩ := h
  rename_i c name s xs selfClosing
  obtain ⟨hdrop, htake⟩ := Text.dropWhile_append_of_head?
    (fun d hd => by rw [hname d hd]; rfl : ∀ d ∈ c :: name, (!Html.endsTagName d) = true)
    (fun d hd => by rw [hs.endsTagName rest d hd]; rfl)
  have hread (mayStart : Bool) (h : xs ≠ [] → mayStart = true) :=
    attributes_spelled hs rest (hs.length_le rest) h
  have hlong : xs.findSome? (fun a => longRef? a.2) = none := List.findSome?_eq_none_iff.2 hshort
  rw [List.append_assoc, startTag, hdrop, htake]
  rw [hread _ fun hxs => by rw [decide_eq_true (hs.length_skipGap_lt hxs rest), Bool.true_or]]
  simp only [not_isUnfinished_tagClose, Bool.false_eq_true, ↓reduceIte, hlong]
  exact tagEnd_tagClose ⟨_, xs, selfClosing⟩ rest

end

end ClientScribe.Html
