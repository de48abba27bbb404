import ClientScribe.Html.Document
import ClientScribe.Proofs.Html.StartTag

/-!
The texts of markup that is complete: characters, references by number, and pieces, which are start
tags with the scripts and style sheets behind them, end tags, comments and declarations.  The tags
of such a text are those of its pieces, and the search goes on behind it as if it had begun there.
-/

namespace ClientScribe.Html

open Text (isBlank strip? search)

/-! ### Ends that are searched for -/

section

variable {α : Type} {f : List Char → Option α} {mark s tail u : List Char} {c : Char} {a : α}

/-- What is found nowhere in a text, and not across its end, is found behind it. -/
theorem search_append (hnone : search f s = none)
    (hcross : ∀ c t, f (c :: t) = none → f (c :: t ++ tail) = none) (htail : f tail = some a) :
    search f (s ++ tail) = some a := by
  -- at each place of the text nothing is found, and the tail makes no difference
  induction s with
  | nil =>
    cases tail with
    | nil => exact htail
    | cons c tail => rw [List.nil_append, search, htail]
  | cons c s ih =>
    rw [search] at hnone
    cases hf : f (c :: s) with
    | some b => rw [hf] at hnone; exact absurd hnone (by simp)
    | none =>
      rw [hf] at hnone
      have := hcross c s hf
      rw [List.cons_append] at this ⊢
      rw [search, this]
      exact ih hnone

/-- A mark does not reach over a character that it does not have. -/
theorem strip?_append_cons (hc : c ∉ mark) :
    strip? mark (s ++ c :: u) = (strip? mark s).map (· ++ c :: u) := by
  by_cases h : mark.isPrefixOf s = true
  · obtain ⟨t, rfl⟩ := List.isPrefixOf_iff_prefix.1 h
    rw [List.append_assoc, Text.strip?_append, Text.strip?_append]
    rfl
  · have hlonger : ¬ mark.isPrefixOf (s ++ c :: u) = true := fun hp =>
      h (List.isPrefixOf_iff_prefix.2
        (Text.prefix_of_prefix_append hc (List.isPrefixOf_iff_prefix.1 hp)))
    rw [strip?, if_neg hlonger, strip?, if_neg h]
    rfl

theorem dropWhile_append_cons {p : Char → Bool} (hc : p c = false) :
    (s ++ c :: u).dropWhile p = s.dropWhile p ++ c :: u := by
  rw [List.dropWhile_append]
  split
  · rename_i h
    rw [List.isEmpty_iff.1 h, List.dropWhile_cons_of_neg (by simp [hc]), List.nil_append]
  · rfl

theorem closing?_spelled {g : List Char} (mark : List Char) (hg : IsBlanks g) (rest : List Char) :
    closing? mark (mark ++ (g ++ '>' :: rest)) = some rest := by
  rw [closing?, Text.strip?_append]
  exact congrArg (strip? ['>']) (hg.dropWhile_append_cons (by decide) rest)

/-- The end of a comment does not begin in front of its dashes. -/
theorem closing?_dashes (h : closing? ['-', '-'] (c :: s) = none) :
    closing? ['-', '-'] (c :: s ++ '-' :: '-' :: u) = none := by
  rw [closing?] at h ⊢
  cases hstrip : strip? ['-', '-'] (c :: s ++ '-' :: '-' :: u) with
  | none => rfl
  | some t =>
    have ht := Text.eq_append_of_strip? hstrip
    cases s with
    | nil =>
      obtain ⟨rfl, rfl⟩ : c = '-' ∧ '-' :: u = t := by simpa using ht
      rw [Option.bind_eq_bind, Option.bind_some, List.dropWhile_cons_of_neg (by decide)]
      rfl
    | cons d s =>
      obtain ⟨rfl, rfl, rfl⟩ : c = '-' ∧ d = '-' ∧ s ++ '-' :: '-' :: u = t := by simpa using ht
      have hbehind : strip? ['>'] (s.dropWhile isBlank) = none := by
        rwa [show '-' :: '-' :: s = ['-', '-'] ++ s from rfl, Text.strip?_append] at h
      rw [Option.bind_eq_bind, Option.bind_some, dropWhile_append_cons (by decide),
        strip?_append_cons (by decide), hbehind, Option.map_none]

/-- The end tag of a raw element does not begin in front of its `<`. -/
theorem rawEnd?_angle {name : String} (hname : '<' ∉ name.toList)
    (h : rawEnd? name (c :: s) = none) : rawEnd? name (c :: s ++ '<' :: u) = none := by
  rw [rawEnd?] at h ⊢
  cases hstrip : strip? ['<', '/'] (c :: s ++ '<' :: u) with
  | none => rfl
  | some t =>
    have ht := Text.eq_append_of_strip? hstrip
    cases s with
    | nil => exact absurd ht (by simp)
    | cons d s =>
      obtain ⟨rfl, rfl, rfl⟩ : c = '<' ∧ d = '/' ∧ s ++ '<' :: u = t := by simpa using ht
      rw [show '<' :: '/' :: s = ['<', '/'] ++ s from rfl, Text.strip?_append] at h
      simp only [Option.bind_eq_bind, Option.bind_some,
        dropWhile_append_cons (show isBlank '<' = false by decide)] at h ⊢
      generalize s.dropWhile isBlank = r at h ⊢
      by_cases hlength : name.length ≤ r.length
      · rw [List.take_append_of_le_length hlength, List.drop_append_of_le_length hlength,
          dropWhile_append_cons (by decide), strip?_append_cons (by decide)]
        split
        · rename_i hsame
          rw [if_pos hsame] at h
          rw [h, Option.map_none]
        · rfl
      · -- here the `<` would be part of the name
        refine if_neg fun hsame => hname ?_
        obtain ⟨n, hn⟩ := Nat.exists_eq_add_of_lt (Nat.lt_of_not_le hlength)
        rw [← hsame, String.toList_ofList, hn, Nat.add_assoc, List.take_append,
          Nat.add_sub_cancel_left]
        exact List.mem_map.2 ⟨'<', by simp, by decide⟩

/-- The texts of the end tag of a raw element: its name has letters in either case. -/
inductive SpellsRawEnd (name : String) : List Char → Prop
  | mk {g letters g' : List Char} (hg : IsBlanks g)
    (hletters : letters.map Char.toLower = name.toList) (hg' : IsBlanks g') :
    SpellsRawEnd name ('<' :: '/' :: (g ++ (letters ++ (g' ++ ['>']))))

theorem isBlank_of_isAlpha (hc : c.isAlpha = true) : isBlank c = false := by
  have hcodes : ∀ n < 123, 65 ≤ n → Text.blankRanges.has n = false := by decide
  have hrange : 65 ≤ c.toNat ∧ c.toNat < 123 := by
    rcases Bool.or_eq_true_iff.1 hc with h | h
    · obtain ⟨hlow, hhigh⟩ := of_decide_eq_true h
      have : 65 ≤ c.toNat := hlow
      have : c.toNat ≤ 90 := hhigh
      omega
    · obtain ⟨hlow, hhigh⟩ := Bool.and_eq_true_iff.1 h
      have : 97 ≤ c.toNat := of_decide_eq_true hlow
      have : c.toNat ≤ 122 := of_decide_eq_true hhigh
      omega
  exact hcodes _ hrange.2 hrange.1

theorem toLower_of_isBlank (hc : isBlank c = true) : c.toLower = c := by
  refine dif_neg fun hupper => ?_
  have halpha : c.isAlpha = true := Bool.or_eq_true_iff.2 (.inl (decide_eq_true hupper))
  exact absurd hc (by simp [isBlank_of_isAlpha halpha])

theorem letters_of_mem_rawElements {name : String} (h : name ∈ rawElements) :
    name.toList ≠ [] ∧ ∀ c ∈ name.toList, c.isAlpha = true := by
  have hall := List.all_eq_true.1 (show rawElements.all
    (fun name => !name.toList.isEmpty && name.toList.all Char.isAlpha) = true by decide) name h
  rw [Bool.and_eq_true, Bool.not_eq_true', List.isEmpty_eq_false_iff, List.all_eq_true] at hall
  exact hall

theorem rawEnd?_spelled {name : String} (hname : name ∈ rawElements)
    (hs : SpellsRawEnd name s) (rest : List Char) : rawEnd? name (s ++ rest) = some rest := by
  obtain ⟨hg, hletters, hg'⟩ := hs
  rename_i g letters g'
  obtain ⟨hne, halpha⟩ := letters_of_mem_rawElements hname
  have hfirst : ∀ c ∈ (letters ++ (g' ++ '>' :: rest)).head?, isBlank c = false := by
    cases letters with
    | nil => exact absurd hletters.symm hne
    | cons c letters =>
      intro d hd
      obtain rfl := Option.some.inj hd
      refine Bool.eq_false_iff.2 fun hblank => ?_
      have hlower := halpha c.toLower (hletters ▸ List.mem_map_of_mem List.mem_cons_self)
      rw [toLower_of_isBlank hblank] at hlower
      exact absurd hblank (by simp [isBlank_of_isAlpha hlower])
  have hlength : name.length = letters.length := by
    rw [← String.length_toList, ← hletters, List.length_map]
  have hstrip (t : List Char) : strip? ['<', '/'] ('<' :: '/' :: t) = some t :=
    Text.strip?_append ['<', '/'] t
  simp only [List.cons_append, List.append_assoc, List.nil_append]
  rw [rawEnd?, hstrip]
  simp only [Option.bind_eq_bind, Option.bind_some, hg.dropWhile_append hfirst, hlength,
    List.take_left, List.drop_left, hletters, String.ofList_toList, ↓reduceIte,
    hg'.dropWhile_append_cons (show isBlank '>' = false by decide)]
  exact Text.strip?_append ['>'] rest

end

/-! ### Pieces -/

/-- The texts behind a start tag that belong to its element and are no markup: what a raw element
holds up to its end tag, and else nothing. -/
inductive SpellsInside (t : WrittenTag) : List Char → Prop
  | markup (h : t.name ∉ rawElements ∨ t.selfClosing = true) : SpellsInside t []
  | raw {s stop : List Char} (hname : t.name ∈ rawElements) (hopen : t.selfClosing = false)
    (hs : search (rawEnd? t.name) s = none) (hstop : SpellsRawEnd t.name stop) :
    SpellsInside t (s ++ stop)

/-- The texts of pieces of markup, and the tags that they start. -/
inductive SpellsPiece : List Char → List StartTag → Prop
  | start {s inside : List Char} {t : WrittenTag} (hs : SpellsTag s t)
    (hinside : SpellsInside t inside) : SpellsPiece ('<' :: (s ++ inside)) [t.read]
  | stop {s : List Char} (hs : '>' ∉ s) : SpellsPiece ('<' :: '/' :: (s ++ ['>'])) []
  | comment {s g : List Char} (hs : search (closing? ['-', '-']) s = none) (hg : IsBlanks g) :
    SpellsPiece ('<' :: '!' :: '-' :: '-' :: (s ++ ('-' :: '-' :: (g ++ ['>'])))) []
  | declaration {c : Char} {s : List Char} (hc : c ∉ ['-', '[', '>']) (hs : '>' ∉ s) :
    SpellsPiece ('<' :: '!' :: c :: (s ++ ['>'])) []
  | instruction {s : List Char} (hs : '>' ∉ s) : SpellsPiece ('<' :: '?' :: (s ++ ['>'])) []

/-- The texts of references by number behind their `&#`, up to something that is no digit. -/
inductive IsNumberRef : List Char → Prop
  | decimal {ds s : List Char} (hne : ds ≠ []) (hds : ∀ d ∈ ds, d.isDigit = true)
    (hshort : ds.length ≤ Text.maxDigits) (hs : ∀ c ∈ s.head?, Text.isHex c = false) :
    IsNumberRef (ds ++ s)
  | hex {x : Char} {ds s : List Char} (hx : x = 'x' ∨ x = 'X') (hne : ds ≠ [])
    (hds : ∀ d ∈ ds, Text.isHex d = true) (hs : ∀ c ∈ s.head?, Text.isHex c = false) :
    IsNumberRef (x :: (ds ++ s))

/-- Behind `&#` there are not too many digits. -/
def IsShortRef (s : List Char) : Prop := (s.takeWhile Char.isDigit).length ≤ Text.maxDigits

/-- Whether the first character begins markup in front of the second one. -/
def beginsMarkup (c d : Char) : Bool :=
  c = '<' && (d.isAlpha || d = '/' || d = '!' || d = '?') || c = '&' && d = '#'

/-- The texts of markup and their start tags; what stands behind `&#` satisfies `Ref`. -/
inductive Markup (Ref : List Char → Prop) : List Char → List StartTag → Prop
  | nil : Markup Ref [] []
  | char {c : Char} {s : List Char} {ts : List StartTag}
    (hc : ∀ d ∈ s.head?, beginsMarkup c d = false) (others : Markup Ref s ts) :
    Markup Ref (c :: s) ts
  | ref {s : List Char} {ts : List StartTag} (hs : Ref s) (others : Markup Ref s ts) :
    Markup Ref ('&' :: '#' :: s) ts
  | piece {p s : List Char} {t ts : List StartTag} (hp : SpellsPiece p t)
    (others : Markup Ref s ts) : Markup Ref (p ++ s) (t ++ ts)

/-- A character that is no mark begins no markup. -/
theorem Markup.plain {Ref : List Char → Prop} {c : Char} {s : List Char} {ts : List StartTag}
    (hangle : c ≠ '<') (hand : c ≠ '&') (others : Markup Ref s ts) : Markup Ref (c :: s) ts :=
  .char (fun d _ => by simp [beginsMarkup, hangle, hand]) others

section

variable {Ref : List Char → Prop} {final : Bool} {rounds : Nat} {c : Char}
  {s p rest inside : List Char} {ts : List StartTag}

/-! ### One step of the search -/

theorem dropWhile_mark (hc : c = '<' ∨ c = '&') :
    (c :: s).dropWhile (fun c => c ≠ '<' && c ≠ '&') = c :: s :=
  List.dropWhile_cons_of_neg (by rcases hc with rfl | rfl <;> decide)

theorem tagsFrom_tag {t : StartTag} (h : construct ('<' :: s) = .tag t rest) :
    tagsFrom final (rounds + 1) ('<' :: s) =
      (tagsFrom final rounds (behindTag t rest)).map (t :: ·) := by
  simp only [tagsFrom, dropWhile_mark (.inl rfl), h]

theorem tagsFrom_text (hc : c = '<' ∨ c = '&') (h : construct (c :: s) = .text rest) :
    tagsFrom final (rounds + 1) (c :: s) = tagsFrom final rounds rest := by
  simp only [tagsFrom, dropWhile_mark hc, h]

theorem tagsFrom_brokenReference (h : construct ('&' :: s) = .brokenReference rest) :
    tagsFrom final (rounds + 1) ('&' :: s) =
      if final || !s.contains ';' then .ok [] else tagsFrom true rounds rest := by
  simp only [tagsFrom, dropWhile_mark (.inr rfl), h]

theorem tagsFrom_refused {fault : MarkupFault} (h : construct ('&' :: s) = .refused fault) :
    tagsFrom final (rounds + 1) ('&' :: s) = .error fault := by
  simp only [tagsFrom, dropWhile_mark (.inr rfl), h]

theorem tagsFrom_of_ne (hangle : c ≠ '<') (hand : c ≠ '&') :
    tagsFrom final rounds (c :: s) = tagsFrom final rounds s := by
  cases rounds with
  | zero => rfl
  | succ rounds =>
    rw [tagsFrom, tagsFrom, List.dropWhile_cons_of_pos (by simp [hangle, hand])]

theorem construct_char (hc : c = '<' ∨ c = '&') (hs : ∀ d ∈ s.head?, beginsMarkup c d = false) :
    construct (c :: s) = .text s := by
  rcases s with - | ⟨d, s⟩
  · rcases hc with rfl | rfl <;> rfl
  · have hd := hs d rfl
    rcases hc with rfl | rfl
    · obtain ⟨⟨⟨hletter, hslash⟩, hbang⟩, hask⟩ :
          ((d.isAlpha = false ∧ d ≠ '/') ∧ d ≠ '!') ∧ d ≠ '?' := by simpa [beginsMarkup] using hd
      rw [construct.eq_6 d s hslash (fun _ heq => absurd heq hbang) (fun _ heq => absurd heq hbang)
        hbang hask, if_neg (by simp [hletter])]
    · have hhash : d ≠ '#' := by simpa [beginsMarkup] using hd
      simp [construct, hhash]

theorem construct_letter (hc : c.isAlpha = true) {t : StartTag}
    (ht : startTag (c :: s) = .tag t rest) : construct ('<' :: c :: s) = .tag t rest := by
  have hne {d : Char} (hd : d.isAlpha = false) : c ≠ d := by
    rintro rfl
    exact absurd hc (by simp [hd])
  rw [construct.eq_6 c s (hne (by decide)) (fun _ heq => absurd heq (hne (by decide)))
    (fun _ heq => absurd heq (hne (by decide))) (hne (by decide)) (hne (by decide)), if_pos hc, ht]

theorem upToClose_append (hs : '>' ∉ s) (rest : List Char) :
    upToClose (s ++ '>' :: rest) = .text rest := by
  rw [upToClose, (Text.takeWhile_ne_append hs rest).1]

theorem construct_comment {g : List Char} (hs : search (closing? ['-', '-']) s = none)
    (hg : IsBlanks g) (rest : List Char) :
    construct ('<' :: '!' :: '-' :: '-' :: (s ++ ('-' :: '-' :: (g ++ '>' :: rest)))) =
      .text rest := by
  have hfind : search (closing? ['-', '-']) (s ++ '-' :: '-' :: (g ++ '>' :: rest)) = some rest :=
    search_append hs (fun c t => closing?_dashes) (closing?_spelled ['-', '-'] hg rest)
  rw [construct, upTo, hfind]

theorem construct_declaration (hc : c ∉ ['-', '[', '>']) (hs : '>' ∉ s) (rest : List Char) :
    construct ('<' :: '!' :: c :: (s ++ '>' :: rest)) = .text rest := by
  simp only [List.mem_cons, List.not_mem_nil, or_false, not_or] at hc
  have hall : '>' ∉ c :: s := fun h => (List.mem_cons.1 h).elim (Ne.symm hc.2.2) hs
  rw [construct.eq_4]
  · exact upToClose_append hall rest
  · exact fun _ heq => hc.1 (List.cons.inj heq).1
  · exact fun _ heq => hc.2.1 (List.cons.inj heq).1

/-- Markup goes on behind what belongs to the element. -/
theorem behindTag_inside {t : WrittenTag} (h : SpellsInside t inside) (rest : List Char) :
    behindTag t.read (inside ++ rest) = rest := by
  cases h with
  | markup h =>
    refine if_neg fun hraw => ?_
    simp only [WrittenTag.read, Bool.and_eq_true, List.contains_iff_mem, Bool.not_eq_true'] at hraw
    rcases h with h | h
    · exact h hraw.1
    · exact absurd hraw.2 (by simp [h])
  | @raw s stop hname hopen hs hstop =>
    have hangle : '<' ∉ t.name.toList := fun h =>
      absurd ((letters_of_mem_rawElements hname).2 _ h) (by decide)
    have hfind : search (rawEnd? t.name) (s ++ (stop ++ rest)) = some rest := by
      have hend := rawEnd?_spelled hname hstop rest
      obtain ⟨u, hu⟩ : ∃ u, stop ++ rest = '<' :: u := by
        obtain ⟨-, -, -⟩ := hstop
        exact ⟨_, rfl⟩
      rw [hu] at hend ⊢
      exact search_append hs (fun c t => rawEnd?_angle hangle) hend
    rw [List.append_assoc, behindTag, if_pos (by simp [WrittenTag.read, hname, hopen])]
    exact congrArg (Option.getD · []) hfind

/-- One round of the search takes in a piece and finds its tags. -/
theorem tagsFrom_piece (hp : SpellsPiece p ts) (rest : List Char) :
    tagsFrom final (rounds + 1) (p ++ rest) = (tagsFrom final rounds rest).map (ts ++ ·) := by
  have htext {s : List Char} (h : construct ('<' :: s) = .text rest) :
      tagsFrom final (rounds + 1) ('<' :: s) = (tagsFrom final rounds rest).map ([] ++ ·) := by
    rw [tagsFrom_text (.inl rfl) h]
    cases tagsFrom final rounds rest <;> rfl
  cases hp with
  | @start s inside t hs hinside =>
    have ht := startTag_spelled hs (inside ++ rest)
    obtain ⟨c, s, rfl, hc⟩ : ∃ c u, s = c :: u ∧ c.isAlpha = true := by
      obtain ⟨hletter, -, -, -⟩ := hs
      exact ⟨_, _, rfl, hletter⟩
    simp only [List.cons_append, List.append_assoc] at ht ⊢
    rw [tagsFrom_tag (construct_letter hc ht), behindTag_inside hinside]
    rfl
  | stop hs =>
    simp only [List.cons_append, List.append_assoc, List.nil_append]
    exact htext (upToClose_append hs rest)
  | comment hs hg =>
    simp only [List.cons_append, List.append_assoc, List.nil_append]
    exact htext (construct_comment hs hg rest)
  | declaration hc hs =>
    simp only [List.cons_append, List.append_assoc, List.nil_append]
    exact htext (construct_declaration hc hs rest)
  | instruction hs =>
    simp only [List.cons_append, List.append_assoc, List.nil_append]
    exact htext (upToClose_append hs rest)

/-- One round passes a character that begins no markup, if it takes a round at all. -/
theorem tagsFrom_char (final : Bool) (rounds : Nat)
    (hs : ∀ d ∈ s.head?, beginsMarkup c d = false) :
    ∃ n, rounds ≤ n ∧ tagsFrom final (rounds + 1) (c :: s) = tagsFrom final n s := by
  by_cases hmark : c = '<' ∨ c = '&'
  · refine ⟨rounds, Nat.le_refl _, ?_⟩
    exact tagsFrom_text hmark (construct_char hmark hs)
  · rw [not_or] at hmark
    exact ⟨rounds + 1, Nat.le_succ _, tagsFrom_of_ne hmark.1 hmark.2⟩

/-! ### References by number -/

theorem isHex_of_isDigit (hc : c.isDigit = true) : Text.isHex c = true := by
  simp only [Char.isDigit, Bool.and_eq_true, decide_eq_true_eq] at hc
  have hvalue : Text.hexValue? c = some (c.toNat - 48) :=
    if_pos (Bool.and_eq_true_iff.2 ⟨decide_eq_true hc.1, decide_eq_true hc.2⟩)
  rw [Text.isHex, hvalue]
  rfl

theorem ne_x_of_isDigit (hc : c.isDigit = true) : c ≠ 'x' ∧ c ≠ 'X' :=
  ⟨fun heq => absurd (heq ▸ hc) (by decide), fun heq => absurd (heq ▸ hc) (by decide)⟩

theorem numberRef_decimal {ds u : List Char} (hs : ∀ c ∈ s.head?, c ≠ 'x' ∧ c ≠ 'X')
    (hrun : Text.run? Char.isDigit s = some (ds, c :: u)) :
    numberRef s = if Text.isHex c then .brokenReference s
      else if Text.maxDigits < ds.length then .refused (.longRef ds.length)
      else .text s := by
  unfold numberRef
  split
  rename_i digits isDigit heq
  split at heq
  · exact absurd rfl (hs 'x' rfl).1
  · exact absurd rfl (hs 'X' rfl).2
  · obtain ⟨rfl, rfl⟩ := Prod.mk.inj heq
    simp only [hrun, decide_true, Bool.true_and, decide_eq_true_eq]

theorem numberRef_hex {ds u : List Char} {d : Char} (hc : c = 'x' ∨ c = 'X')
    (hrun : Text.run? Text.isHex s = some (ds, d :: u)) :
    numberRef (c :: s) =
      if Text.isHex d then .brokenReference (c :: s) else .text (c :: s) := by
  have hlength : ¬ s.length = (c :: s).length := by simp
  rcases hc with rfl | rfl
  · simp only [numberRef, hrun, decide_eq_false hlength, Bool.false_and, Bool.false_eq_true,
      ↓reduceIte]
  · simp only [numberRef, hrun, decide_eq_false hlength, Bool.false_and, Bool.false_eq_true,
      ↓reduceIte]

theorem construct_ref (s : List Char) : construct ('&' :: '#' :: s) = numberRef s := by
  rw [construct]

/-- A complete reference is passed. -/
theorem numberRef_spelled (h : IsNumberRef s) (u : List Char) :
    numberRef (s ++ '<' :: u) = .text (s ++ '<' :: u) := by
  have hbehind {s : List Char} (hs : ∀ c ∈ s.head?, Text.isHex c = false) :
      ∃ c v, s ++ '<' :: u = c :: v ∧ Text.isHex c = false := by
    cases s with
    | nil => exact ⟨'<', u, rfl, by decide⟩
    | cons c s => exact ⟨c, _, rfl, hs c rfl⟩
  cases h with
  | @decimal ds s hne hds hshort hs =>
    obtain ⟨c, v, hv, hc⟩ := hbehind hs
    have hrun : Text.run? Char.isDigit (ds ++ c :: v) = some (ds, c :: v) := by
      refine Text.run?_append hne hds fun d hd => ?_
      rw [← Option.some.inj hd]
      exact Bool.eq_false_iff.2 fun hdigit => absurd (isHex_of_isDigit hdigit) (by simp [hc])
    have hfirst : ∀ d ∈ (ds ++ c :: v).head?, d ≠ 'x' ∧ d ≠ 'X' := by
      obtain ⟨d, ds, rfl⟩ := List.exists_cons_of_ne_nil hne
      intro e he
      rw [← Option.some.inj he]
      exact ne_x_of_isDigit (hds d List.mem_cons_self)
    rw [List.append_assoc, hv, numberRef_decimal hfirst hrun, if_neg (by simp [hc]),
      if_neg (Nat.not_lt.2 hshort)]
  | @hex x ds s hx hne hds hs =>
    obtain ⟨c, v, hv, hc⟩ := hbehind hs
    have hrun : Text.run? Text.isHex (ds ++ c :: v) = some (ds, c :: v) :=
      Text.run?_append hne hds fun d hd => Option.some.inj hd ▸ hc
    rw [List.cons_append, List.append_assoc, hv, numberRef_hex hx hrun, if_neg (by simp [hc])]

/-- What is behind `&#` is passed, or counts as broken, unless there are too many digits. -/
theorem numberRef_short (h : IsShortRef s) :
    numberRef s = .text s ∨ numberRef s = .brokenReference s := by
  unfold numberRef
  split
  rename_i digits isDigit heq
  split
  · rename_i ds c u hrun
    split
    · exact .inr rfl
    · split
      · -- so many digits would stand at the start of the text itself
        rename_i hlong
        rw [Bool.and_eq_true, decide_eq_true_eq, decide_eq_true_eq] at hlong
        split at heq
        · obtain ⟨rfl, -⟩ := Prod.mk.inj heq
          exact absurd hlong.1 (by simp)
        · obtain ⟨rfl, -⟩ := Prod.mk.inj heq
          exact absurd hlong.1 (by simp)
        · obtain ⟨rfl, rfl⟩ := Prod.mk.inj heq
          obtain ⟨-, hds, hbehind, rfl⟩ := Text.run?_eq_some_iff.1 hrun
          rw [IsShortRef, (Text.dropWhile_append_of_head? hds hbehind).2] at h
          exact absurd hlong.2 (Nat.not_lt.2 h)
      · exact .inl rfl
  · exact .inr rfl

/-! ### Whole texts -/

theorem beginsMarkup_angle (c : Char) : beginsMarkup c '<' = false := by
  rw [beginsMarkup, show ('<' : Char).isAlpha = false by decide]
  simp

theorem exists_round {u : List Char} (h : (s ++ '<' :: u).length ≤ rounds) :
    ∃ m, rounds = m + 1 := by
  refine Nat.exists_eq_succ_of_ne_zero ?_
  rintro rfl
  simp at h

/-- The search finds the tags of complete markup and goes on behind it with rounds enough. -/
theorem tagsFrom_markup (h : Markup IsNumberRef s ts) (u : List Char)
    (hrounds : (s ++ '<' :: u).length ≤ rounds) :
    ∃ n, ('<' :: u).length ≤ n
      ∧ tagsFrom final rounds (s ++ '<' :: u) = (tagsFrom final n ('<' :: u)).map (ts ++ ·) := by
  -- every part takes at most one round and has at least one character
  induction h generalizing rounds with
  | nil =>
    refine ⟨rounds, hrounds, ?_⟩
    rw [List.nil_append]
    cases tagsFrom final rounds ('<' :: u) <;> rfl
  | @char c s ts hc others ih =>
    obtain ⟨m, rfl⟩ := exists_round hrounds
    have hnext : ∀ d ∈ (s ++ '<' :: u).head?, beginsMarkup c d = false := by
      cases s with
      | nil => exact fun d hd => Option.some.inj hd ▸ beginsMarkup_angle c
      | cons d s => exact hc
    obtain ⟨n, hn, hpass⟩ := tagsFrom_char final m hnext
    rw [List.cons_append, hpass]
    exact ih (Nat.le_trans (Nat.le_of_succ_le_succ hrounds) hn)
  | @ref s ts hs others ih =>
    obtain ⟨m, rfl⟩ := exists_round hrounds
    rw [List.cons_append, List.cons_append,
      tagsFrom_text (.inr rfl) ((construct_ref _).trans (numberRef_spelled hs u))]
    refine ih (Nat.le_trans ?_ (Nat.le_of_succ_le_succ hrounds))
    exact Nat.le_succ _
  | @piece p s t ts hp others ih =>
    obtain ⟨m, rfl⟩ := exists_round hrounds
    have hm : (s ++ '<' :: u).length ≤ m := by
      obtain ⟨c, p, rfl⟩ : ∃ c v, p = c :: v := by cases hp <;> exact ⟨_, _, rfl⟩
      simp only [List.length_append, List.length_cons] at hrounds ⊢
      omega
    obtain ⟨n, hn, hpass⟩ := ih hm
    refine ⟨n, hn, ?_⟩
    rw [List.append_assoc, tagsFrom_piece hp, hpass]
    cases tagsFrom final n ('<' :: u) with
    | error fault => rfl
    | ok us => exact congrArg Except.ok (List.append_assoc t ts us).symm

/-- The search for the tags of such a text comes to an end. -/
theorem tagsFrom_short (h : Markup IsShortRef s ts) (final : Bool) (rounds : Nat) :
    ∃ us, tagsFrom final rounds s = .ok us := by
  -- a broken reference begins the final pass, in which the rest is complete markup too
  induction h generalizing final rounds with
  | nil => exact ⟨[], by cases rounds <;> rfl⟩
  | @char c s ts hc others ih =>
    cases rounds with
    | zero => exact ⟨[], rfl⟩
    | succ rounds =>
      obtain ⟨n, -, hpass⟩ := tagsFrom_char final rounds hc
      rw [hpass]
      exact ih final n
  | @ref s ts hs others ih =>
    cases rounds with
    | zero => exact ⟨[], rfl⟩
    | succ rounds =>
      rcases numberRef_short hs with hpass | hbroken
      · rw [tagsFrom_text (.inr rfl) ((construct_ref s).trans hpass)]
        exact ih final rounds
      · rw [tagsFrom_brokenReference ((construct_ref s).trans hbroken)]
        split
        · exact ⟨[], rfl⟩
        · exact ih true rounds
  | @piece p s t ts hp others ih =>
    cases rounds with
    | zero => exact ⟨[], rfl⟩
    | succ rounds =>
      obtain ⟨us, hus⟩ := ih final rounds
      rw [tagsFrom_piece hp, hus]
      exact ⟨_, rfl⟩

/-- A decimal reference of too many digits ends the search. -/
theorem tagsFrom_longRef {ds : List Char} (hds : ∀ d ∈ ds, d.isDigit = true)
    (hlong : Text.maxDigits < ds.length) (u : List Char) :
    tagsFrom final (rounds + 1) ('&' :: '#' :: (ds ++ ';' :: u)) = .error (.longRef ds.length) := by
  obtain ⟨d, ds, rfl⟩ := List.exists_cons_of_length_pos (Nat.zero_lt_of_lt hlong)
  have hfirst : ∀ c ∈ (d :: ds ++ ';' :: u).head?, c ≠ 'x' ∧ c ≠ 'X' := by
    intro c hc
    rw [← Option.some.inj hc]
    exact ne_x_of_isDigit (hds d List.mem_cons_self)
  have hrun : Text.run? Char.isDigit (d :: ds ++ ';' :: u) = some (d :: ds, ';' :: u) := by
    refine Text.run?_append (by simp) hds fun c hc => ?_
    rw [← Option.some.inj hc]
    decide
  have hrefused : construct ('&' :: '#' :: (d :: ds ++ ';' :: u)) =
      .refused (.longRef (d :: ds).length) := by
    rw [construct_ref, numberRef_decimal hfirst hrun, if_neg (by decide), if_pos hlong]
  exact tagsFrom_refused hrefused

end

end ClientScribe.Html
