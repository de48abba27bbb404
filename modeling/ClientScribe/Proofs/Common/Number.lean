import ClientScribe.Proofs.Common.Grammar
import ClientScribe.Proofs.Text.Integer

/-!
Numbers of common texts as documents read them: without a tag their text tells what they are, and
their value is the same.
-/

namespace ClientScribe.Common

open Json (IsDigits numberOf numeral)
open Text (splitOn)
open Yaml (Tag)

/-- The sign of a negative number. -/
def minus (negative : Bool) : List Char := if negative then ['-'] else []

section

variable {d : Char} {ds fs x s : List Char} {e : Option Int} (negative : Bool)

theorem ne_of_isDigit {c : Char} (hd : d.isDigit = true) (hc : c.isDigit = false) : d ≠ c :=
  Json.ne_of_isDigit hd hc

theorem not_mem_digits {c : Char} (hds : ∀ d ∈ ds, d.isDigit = true) (hc : c.isDigit = false) :
    c ∉ ds := fun hmem => absurd ((hds c hmem).symm.trans hc) (by decide)

theorem unsigned_of_isDigit (hd : d.isDigit = true) : Yaml.unsigned (d :: s) = d :: s := by
  unfold Yaml.unsigned
  split
  · exact absurd (List.cons.inj ‹_›).1 (ne_of_isDigit hd (by decide))
  · exact absurd (List.cons.inj ‹_›).1 (ne_of_isDigit hd (by decide))
  · rfl

theorem unsigned_minus (hd : d.isDigit = true) :
    Yaml.unsigned (minus negative ++ d :: s) = d :: s := by
  cases negative with
  | true => rfl
  | false => exact unsigned_of_isDigit hd

theorem head?_minus (hd : d.isDigit = true) :
    (minus negative ++ d :: s).head? = some '-' ↔ negative = true := by
  cases negative with
  | true => simp [minus]
  | false => simpa [minus] using ne_of_isDigit hd (by decide)

theorem eq_of_mem_minus {negative : Bool} {c : Char} (h : c ∈ minus negative) : c = '-' := by
  cases negative with
  | true => exact List.mem_singleton.1 h
  | false => cases h

/-- The first character of a number. -/
theorem head_minus (hd : d.isDigit = true) :
    ∃ c t, minus negative ++ d :: s = c :: t ∧ (c.isDigit = true ∨ c = '-') := by
  cases negative with
  | true => exact ⟨'-', _, rfl, .inr rfl⟩
  | false => exact ⟨d, s, rfl, .inl hd⟩

/-! ### Tags -/

theorem not_mem_words {words : List (List Char)}
    (hwords : words.all (fun w => w.head?.all fun c => !c.isDigit && c ≠ '-') = true)
    (hd : d.isDigit = true) : minus negative ++ d :: s ∉ words := by
  intro hmem
  obtain ⟨c, t, hs, hc⟩ := head_minus (s := s) negative hd
  have hword := List.all_eq_true.1 hwords _ hmem
  rw [hs, List.head?_cons, Option.all_some, Bool.and_eq_true, Bool.not_eq_true',
    decide_eq_true_eq] at hword
  rcases hc with hc | hc
  · exact absurd (hc.symm.trans hword.1) (by decide)
  · exact hword.2 hc

/-- A text that begins like a number is one if it has the form of one. -/
theorem ofPlain_number (hd : d.isDigit = true)
    (hlast : (minus negative ++ d :: s).getLast? ≠ some '\n') :
    (Yaml.isFloat (minus negative ++ d :: s) = true →
        Tag.ofPlain (minus negative ++ d :: s) = .float)
      ∧ (Yaml.isFloat (minus negative ++ d :: s) = false →
        Yaml.isInt (minus negative ++ d :: s) = true →
        Tag.ofPlain (minus negative ++ d :: s) = .int) := by
  have hnewline : minus negative ++ d :: s ≠ ['\n'] := by
    intro h
    rw [h] at hlast
    exact hlast rfl
  have hempty : (minus negative ++ d :: s).isEmpty = false := by cases negative <;> rfl
  have htilde : minus negative ++ d :: s ≠ ['~'] := fun h => by
    have hmem : minus negative ++ d :: s ∈ [['~']] := List.mem_singleton.2 h
    exact not_mem_words negative rfl hd hmem
  have hnull : (Tag.caseForms "null").contains (minus negative ++ d :: s) = false := by
    rw [← Bool.not_eq_true, List.contains_iff_mem]
    exact not_mem_words negative rfl hd
  have hflags : (Tag.flags.any fun f => (Tag.caseForms f.1).contains (minus negative ++ d :: s))
      = false := by
    rw [← Bool.not_eq_true, List.any_eq_true]
    rintro ⟨f, hf, hmem⟩
    rw [List.contains_iff_mem] at hmem
    have hflag : minus negative ++ d :: s ∈ Tag.flags.flatMap fun f => Tag.caseForms f.1 :=
      List.mem_flatMap.2 ⟨f, hf, hmem⟩
    exact not_mem_words negative rfl hd hflag
  rw [Tag.ofPlain, if_neg hnewline, Yaml.dropLineEnd, if_neg hlast, Tag.ofLine]
  simp only [hempty, htilde, hnull, hflags, decide_false, Bool.or_false, Bool.false_eq_true,
    if_false]
  constructor
  · intro hfloat
    rw [if_pos hfloat]
  · intro hfloat hint
    rw [hfloat, if_neg (by decide), if_pos hint]

theorem isDecimal_of_isDigit (hd : d.isDigit = true) : Yaml.isDecimal d = true := by
  rw [Yaml.isDecimal, hd]
  rfl

/-- Digits without a colon have the form of a number in base ten. -/
theorem isWhole_digits {first : Char → Bool} (hfirst : first d = true)
    (hds : ∀ c ∈ d :: s, c.isDigit = true) : Yaml.isWhole first false (d :: s) = true := by
  have hdigits : s.all Yaml.isDecimal = true :=
    List.all_eq_true.2 fun c hc => isDecimal_of_isDigit (hds c (List.mem_cons_of_mem d hc))
  rw [Yaml.isWhole, Text.splitOn_of_not_mem (not_mem_digits hds (by decide))]
  simp [hfirst, hdigits]

/-- A number is none of the names. -/
theorem not_isName (hd : d.isDigit = true) : Yaml.isNan (minus negative ++ d :: s) = false
    ∧ Yaml.isInfinity (d :: s) = false := by
  constructor
  · rw [← Bool.not_eq_true, Yaml.isNan, List.any_eq_true]
    rintro ⟨name, hname, heq⟩
    rw [decide_eq_true_eq] at heq
    exact not_mem_words negative rfl hd (List.mem_map.2 ⟨name, hname, heq⟩)
  · rw [← Bool.not_eq_true, Yaml.isInfinity, List.any_eq_true]
    rintro ⟨name, hname, heq⟩
    rw [decide_eq_true_eq] at heq
    exact not_mem_words false rfl hd (List.mem_map.2 ⟨name, hname, heq⟩)

theorem getLast?_digits (hds : IsDigits ds) (front : List Char) :
    (front ++ ds).getLast? ≠ some '\n' := by
  intro h
  have hsome : ds.getLast?.isSome = true := List.getLast?_isSome.2 hds.1
  rw [List.getLast?_append, Option.or_of_isSome hsome] at h
  exact absurd (hds.2 _ (List.mem_of_getLast? h)) (by decide)

theorem ofPlain_whole (hds : IsDigits ds) (hzero : ds.head? = some '0' → ds = ['0']) :
    Tag.ofPlain (minus negative ++ ds) = .int := by
  have hlast := getLast?_digits hds (minus negative)
  obtain ⟨d, t, rfl, hd⟩ := hds.exists_cons
  refine (ofPlain_number negative hd hlast).2 ?_ ?_
  · have hpoint : '.' ∉ minus negative ++ d :: t := by
      rw [List.mem_append, not_or]
      exact ⟨by cases negative <;> decide, not_mem_digits hds.2 (by decide)⟩
    rw [Yaml.isFloat, unsigned_minus negative hd, (not_isName negative hd).1,
      (not_isName (s := t) negative hd).2, Text.splitOn_of_not_mem hpoint]
    cases negative <;> rfl
  · rw [Yaml.isInt, unsigned_minus negative hd]
    by_cases h : d = '0'
    · subst h
      obtain ⟨-, rfl⟩ := List.cons.inj (hzero rfl)
      rfl
    · have hwhole : Yaml.isWhole (fun c => c.isDigit && c ≠ '0') false (d :: t) = true :=
        isWhole_digits (by simp [hd, h]) hds.2
      split
      · exact absurd (List.cons.inj ‹_›).1 h
      · exact absurd (List.cons.inj ‹_›).1 h
      · exact absurd (List.cons.inj ‹_›).1 h
      · exact Bool.or_eq_true_iff.2 (.inl hwhole)

/-! ### Values -/

theorem filter_digits (hds : IsDigits ds) :
    (minus negative ++ ds).filter (· ≠ '_') = minus negative ++ ds := by
  refine List.filter_eq_self.2 fun c hc => ?_
  rw [decide_eq_true_eq]
  rintro rfl
  rcases List.mem_append.1 hc with hc | hc
  · cases negative <;> exact absurd hc (by decide)
  · exact not_mem_digits hds.2 (by decide) hc

theorem wholeValue_digits (hds : IsDigits ds) (hzero : ds.head? = some '0' → ds = ['0'])
    (hlong : ds.length ≤ Text.maxDigits) : Yaml.wholeValue ds = .ok (numeral ds : Int) := by
  obtain ⟨d, t, rfl, hd⟩ := hds.exists_cons
  by_cases h : d = '0'
  · subst h
    obtain ⟨-, rfl⟩ := List.cons.inj (hzero rfl)
    rfl
  · have hcolon : (d :: t).contains ':' = false := by
      rw [← Bool.not_eq_true, List.contains_iff_mem]
      exact not_mem_digits hds.2 (by decide)
    have hten : Yaml.inTen (d :: t) = .ok (numeral (d :: t) : Int) := by
      rw [Yaml.inTen, Text.integer?_of_isDigit hds.2, Text.natural?_of_isDigit hds.2 hds.1 hlong]
      simp only [Option.map_some, numeral, Text.digitsValue, List.foldl_map]
      rfl
    unfold Yaml.wholeValue
    split
    · exact absurd ‹_› (List.cons_ne_nil d t)
    · exact absurd (List.cons.inj ‹_›).1 h
    · exact absurd (List.cons.inj ‹_›).1 h
    · exact absurd (List.cons.inj ‹_›).1 h
    · exact absurd (List.cons.inj ‹_›).1 h
    · rw [hcolon, if_neg (by decide), hten]

theorem intValue_whole (hds : IsDigits ds) (hzero : ds.head? = some '0' → ds = ['0'])
    (hlong : ds.length ≤ Text.maxDigits) : Yaml.intValue (minus negative ++ ds) =
      .ok (if negative then -(numeral ds : Int) else numeral ds) := by
  have hvalue := wholeValue_digits hds hzero hlong
  rw [Yaml.intValue, filter_digits negative hds]
  obtain ⟨d, t, rfl, hd⟩ := hds.exists_cons
  have hempty : (minus negative ++ d :: t).isEmpty = false := by cases negative <;> rfl
  simp only [hempty, unsigned_minus negative hd, hvalue, head?_minus negative hd, Except.map]
  cases negative <;> simp

/-! ### Fractions -/

/-- The texts of an exponent whose mark is in lower case, and its value. -/
inductive Exponent : List Char → Int → Prop
  | absent : Exponent [] 0
  | plus {ds : List Char} (hds : IsDigits ds) : Exponent ('e' :: '+' :: ds) (numeral ds)
  | minus {ds : List Char} (hds : IsDigits ds) : Exponent ('e' :: '-' :: ds) (-numeral ds)

theorem isFraction_spelled (hfs : IsDigits fs) (hx : SpellsExponent x e) :
    Yaml.isFraction (fs ++ x) = true := by
  have hdrop {mark sign : Char} {ds : List Char} (hmark : mark = 'e' ∨ mark = 'E') :
      (fs ++ mark :: sign :: ds).dropWhile Yaml.isDecimal = mark :: sign :: ds := by
    refine (Text.dropWhile_append_of_head? (fun c hc => isDecimal_of_isDigit (hfs.2 c hc)) ?_).1
    rintro c hc
    rw [← Option.some.inj hc]
    rcases hmark with rfl | rfl <;> decide
  rw [Yaml.isFraction]
  cases hx with
  | absent =>
    have hdecimal : ∀ c ∈ fs, Yaml.isDecimal c = true := fun c hc =>
      isDecimal_of_isDigit (hfs.2 c hc)
    rw [(Text.dropWhile_append_of_head? hdecimal fun c hc => absurd hc (by simp)).1]
  | plus hmark hds => rw [hdrop hmark]; simpa [hmark, hds.1] using hds.2
  | minus hmark hds => rw [hdrop hmark]; simpa [hmark, hds.1] using hds.2

theorem point_not_mem (hfs : IsDigits fs) (hx : SpellsExponent x e) : '.' ∉ fs ++ x := by
  have hmarked {mark sign : Char} {ds : List Char} (hmark : mark = 'e' ∨ mark = 'E')
      (hsign : '.' ≠ sign) (hds : IsDigits ds) : '.' ∉ mark :: sign :: ds := by
    simp only [List.mem_cons, not_or]
    refine ⟨?_, hsign, not_mem_digits hds.2 (by decide)⟩
    rcases hmark with rfl | rfl <;> decide
  rw [List.mem_append, not_or]
  refine ⟨not_mem_digits hfs.2 (by decide), ?_⟩
  cases hx with
  | absent => exact List.not_mem_nil
  | plus hmark hds => exact hmarked hmark (by decide) hds
  | minus hmark hds => exact hmarked hmark (by decide) hds

theorem getLast?_fraction (hfs : IsDigits fs) (hx : SpellsExponent x e) (front : List Char) :
    (front ++ (fs ++ x)).getLast? ≠ some '\n' := by
  cases hx with
  | absent =>
    rw [List.append_nil]
    exact getLast?_digits hfs front
  | @plus mark es _ hes =>
    have hlast := getLast?_digits hes (front ++ (fs ++ [mark, '+']))
    simpa using hlast
  | @minus mark es _ hes =>
    have hlast := getLast?_digits hes (front ++ (fs ++ [mark, '-']))
    simpa using hlast

theorem ofPlain_fraction (hds : IsDigits ds) (hfs : IsDigits fs) (hx : SpellsExponent x e) :
    Tag.ofPlain (minus negative ++ (ds ++ '.' :: (fs ++ x))) = .float := by
  have hlast := getLast?_fraction hfs hx (minus negative ++ (ds ++ ['.']))
  obtain ⟨d, t, rfl, hd⟩ := hds.exists_cons
  simp only [List.append_assoc, List.cons_append, List.nil_append] at hlast ⊢
  refine (ofPlain_number negative hd hlast).1 ?_
  have hsplit : splitOn '.' (minus negative ++ d :: (t ++ '.' :: (fs ++ x))) =
      [minus negative ++ d :: t, fs ++ x] := by
    have hfront : '.' ∉ minus negative ++ d :: t := by
      rw [List.mem_append, not_or]
      exact ⟨by cases negative <;> decide, not_mem_digits hds.2 (by decide)⟩
    have hparts := Text.splitOn_append hfront (fs ++ x)
    rw [Text.splitOn_of_not_mem (point_not_mem hfs hx)] at hparts
    simpa using hparts
  have hform : (Yaml.isWhole Char.isDigit false (Yaml.unsigned (minus negative ++ d :: t))
      && Yaml.isFraction (fs ++ x)) = true := by
    rw [unsigned_minus negative hd, isWhole_digits hd hds.2, isFraction_spelled hfs hx]
    rfl
  obtain ⟨c, u, hfront, -⟩ := head_minus (s := t) negative hd
  rw [hfront] at hform hsplit
  simp only [Yaml.isFloat, hsplit, hform, Bool.true_or, Bool.or_true]

/-! ### Lower case -/

theorem lowerChar_of_lt {c : Char} (h : c.toNat < 0x41) : Text.lowerChar c = [c] := by
  have hne : c ≠ '\u0130' := by
    rintro rfl
    exact absurd h (by decide)
  rw [Text.lowerChar, if_neg hne, Text.lowerRuns, Text.CaseRun.find?, if_pos h]
  rfl

theorem lowerAfter_eq_flatMap (h : 'Σ' ∉ s) (before : List Char) :
    Text.lowerAfter before s = s.flatMap Text.lowerChar := by
  induction s generalizing before with
  | nil => rfl
  | cons c s ih =>
    rw [List.mem_cons, not_or] at h
    have hc : (decide (c = 'Σ')) = false := decide_eq_false (Ne.symm h.1)
    rw [Text.lowerAfter, ih h.2, hc, List.flatMap_cons]
    rfl

theorem flatMap_lowerChar (h : ∀ c ∈ s, c.toNat < 0x41) : s.flatMap Text.lowerChar = s := by
  induction s with
  | nil => rfl
  | cons c s ih =>
    rw [List.forall_mem_cons] at h
    rw [List.flatMap_cons, lowerChar_of_lt h.1, ih h.2, List.singleton_append]

theorem lt_of_digits (hds : IsDigits ds) : ∀ c ∈ ds, c.toNat < 0x41 := fun c hc =>
  Nat.lt_of_lt_of_le (Text.toNat_of_isDigit (hds.2 c hc)).2 (by decide)

/-- In lower case the mark of an exponent is the small one. -/
theorem lower_exponent (hx : SpellsExponent x e) :
    (∀ c ∈ x, c ≠ '_' ∧ c ≠ 'Σ') ∧ Exponent (x.flatMap Text.lowerChar) (e.getD 0) := by
  have hmarked {mark sign : Char} {es : List Char} (hmark : mark = 'e' ∨ mark = 'E')
      (hsign : sign.toNat < 0x41) (hes : IsDigits es) :
      (∀ c ∈ mark :: sign :: es, c ≠ '_' ∧ c ≠ 'Σ')
        ∧ (mark :: sign :: es).flatMap Text.lowerChar = 'e' :: sign :: es := by
    have hrest : ∀ c ∈ sign :: es, c.toNat < 0x41 :=
      List.forall_mem_cons.2 ⟨hsign, lt_of_digits hes⟩
    constructor
    · refine List.forall_mem_cons.2 ⟨by rcases hmark with rfl | rfl <;> decide, fun c hc => ?_⟩
      constructor <;> rintro rfl <;> exact absurd (hrest _ hc) (by decide)
    · rw [List.flatMap_cons, flatMap_lowerChar hrest]
      rcases hmark with rfl | rfl <;> rfl
  cases hx with
  | absent => exact ⟨List.forall_mem_nil _, .absent⟩
  | plus hmark hes =>
    obtain ⟨hbare, hlower⟩ := hmarked hmark (show '+'.toNat < 0x41 by decide) hes
    rw [hlower]
    exact ⟨hbare, .plus hes⟩
  | minus hmark hes =>
    obtain ⟨hbare, hlower⟩ := hmarked hmark (show '-'.toNat < 0x41 by decide) hes
    rw [hlower]
    exact ⟨hbare, .minus hes⟩

/-- A fraction without underscores and in lower case differs in the mark of the exponent only. -/
theorem bareNumber_fraction (hds : IsDigits ds) (hfs : IsDigits fs) (hx : SpellsExponent x e) :
    Yaml.bareNumber (minus negative ++ (ds ++ '.' :: (fs ++ x))) =
      minus negative ++ (ds ++ '.' :: (fs ++ x.flatMap Text.lowerChar)) := by
  have hminus : ∀ c ∈ minus negative, c.toNat < 0x41 := fun c hc => by
    obtain rfl := eq_of_mem_minus hc
    decide
  have hfront : ∀ c ∈ minus negative ++ (ds ++ '.' :: fs), c.toNat < 0x41 := by
    simp only [List.forall_mem_append, List.forall_mem_cons]
    exact ⟨hminus, lt_of_digits hds, by decide, lt_of_digits hfs⟩
  have hall : ∀ c ∈ minus negative ++ (ds ++ '.' :: fs) ++ x, c ≠ '_' ∧ c ≠ 'Σ' := by
    refine List.forall_mem_append.2 ⟨fun c hc => ?_, (lower_exponent hx).1⟩
    constructor <;> rintro rfl <;> exact absurd (hfront _ hc) (by decide)
  have hassoc (y : List Char) : minus negative ++ (ds ++ '.' :: (fs ++ y)) =
      minus negative ++ (ds ++ '.' :: fs) ++ y := by simp
  rw [hassoc, hassoc, Yaml.bareNumber,
    List.filter_eq_self.2 fun c hc => decide_eq_true (hall c hc).1,
    Text.lower, lowerAfter_eq_flatMap (fun hc => (hall _ hc).2 rfl), List.flatMap_append,
    flatMap_lowerChar hfront]

variable {k : Int}

theorem digitsOf?_digits (hds : ∀ d ∈ ds, d.isDigit = true) :
    Yaml.digitsOf? ds = some (ds.map fun c => c.toNat - 48) := by
  rw [Yaml.digitsOf?]
  induction ds with
  | nil => rfl
  | cons d ds ih =>
    rw [List.forall_mem_cons] at hds
    rw [List.mapM_cons, Text.digitValue?_of_isDigit hds.1, ih hds.2]
    rfl

theorem exponentOf?_signed {sign : Char} (hsign : sign = '+' ∨ sign = '-') (hds : IsDigits ds) :
    Yaml.exponentOf? (sign :: ds) =
      some (if sign = '-' then -(numeral ds : Int) else numeral ds) := by
  have hdigits : Yaml.digitsOf? (Yaml.unsigned (sign :: ds)) =
      some (ds.map fun c => c.toNat - 48) := by
    rcases hsign with rfl | rfl <;> exact digitsOf?_digits hds.2
  obtain ⟨d, t, rfl, -⟩ := hds.exists_cons
  rw [Yaml.exponentOf?, hdigits]
  simp only [List.map_cons, List.head?_cons, Option.some.injEq]
  rfl

theorem unsignedDecimal?_fraction (hds : IsDigits ds) (hfs : IsDigits fs) (hx : Exponent x k) :
    Yaml.unsignedDecimal? (ds ++ '.' :: (fs ++ x)) =
      some (Decimal.nearest (numeral (ds ++ fs)) (k - fs.length)) := by
  have hmantissa : ∀ c ∈ ds ++ '.' :: fs, (decide (c ≠ 'e') && decide (c ≠ 'E')) = true := by
    intro c hc
    rw [Bool.and_eq_true, decide_eq_true_eq, decide_eq_true_eq]
    constructor <;> rintro rfl
    all_goals
      simp only [List.mem_append, List.mem_cons] at hc
      rcases hc with hc | hc | hc
      · exact not_mem_digits hds.2 (by decide) hc
      · exact absurd hc (by decide)
      · exact not_mem_digits hfs.2 (by decide) hc
  have hmark : ∀ c ∈ x.head?, (decide (c ≠ 'e') && decide (c ≠ 'E')) = false := by
    intro c hc
    cases hx <;> cases hc <;> decide
  obtain ⟨hdrop, htake⟩ := Text.dropWhile_append_of_head? hmantissa hmark
  have hassoc : ds ++ '.' :: (fs ++ x) = ds ++ '.' :: fs ++ x := by simp
  have hsplit : splitOn '.' (ds ++ '.' :: fs) = [ds, fs] := by
    rw [Text.splitOn_append (not_mem_digits hds.2 (by decide)),
      Text.splitOn_of_not_mem (not_mem_digits hfs.2 (by decide))]
  have hdigits := digitsOf?_digits (List.forall_mem_append.2 ⟨hds.2, hfs.2⟩)
  have hempty : ((ds ++ fs).map fun c => c.toNat - 48).isEmpty = false := by
    obtain ⟨d, t, rfl, -⟩ := hds.exists_cons
    rfl
  rw [hassoc, Yaml.unsignedDecimal?, htake, hdrop]
  simp only [hsplit, Option.bind_eq_bind]
  cases hx with
  | absent =>
    simp only [Option.bind_some, hdigits, hempty, Bool.false_eq_true, if_false]
    rfl
  | plus hes =>
    simp only [exponentOf?_signed (.inl rfl) hes, Option.bind_some, hdigits, hempty,
      Bool.false_eq_true, if_false]
    rfl
  | minus hes =>
    simp only [exponentOf?_signed (.inr rfl) hes, Option.bind_some, hdigits, hempty,
      Bool.false_eq_true, if_false]
    rfl

theorem trimNumber_fraction (hds : IsDigits ds) (hfs : IsDigits fs) (hx : Exponent x k) :
    Yaml.trimNumber (ds ++ '.' :: (fs ++ x)) = ds ++ '.' :: (fs ++ x) := by
  have hkeep {t : List Char} (ht : ∀ c ∈ t.head?, c.isDigit = true) :
      t.dropWhile Text.isNumberBlank = t := by
    cases t with
    | nil => rfl
    | cons c t =>
      rw [List.dropWhile_cons, Text.isNumberBlank_of_isDigit (ht c rfl)]
      rfl
  have hlast {front es : List Char} (hes : IsDigits es) :
      ∀ c ∈ (front ++ es).reverse.head?, c.isDigit = true := by
    intro c hc
    have hsome : es.getLast?.isSome = true := List.getLast?_isSome.2 hes.1
    rw [List.head?_reverse, List.getLast?_append, Option.or_of_isSome hsome] at hc
    exact hes.2 c (List.mem_of_getLast? hc)
  have hreverse : ∀ c ∈ (ds ++ '.' :: (fs ++ x)).reverse.head?, c.isDigit = true := by
    cases hx with
    | absent => simpa using @hlast (ds ++ ['.']) fs hfs
    | @plus es hes => simpa using @hlast (ds ++ '.' :: (fs ++ ['e', '+'])) es hes
    | @minus es hes => simpa using @hlast (ds ++ '.' :: (fs ++ ['e', '-'])) es hes
  have hfirst : ∀ c ∈ (ds ++ '.' :: (fs ++ x)).head?, c.isDigit = true := by
    obtain ⟨d, t, rfl, hd⟩ := hds.exists_cons
    intro c hc
    exact Option.some.inj hc ▸ hd
  rw [Yaml.trimNumber, hkeep hfirst, hkeep hreverse, List.reverse_reverse]

theorem toLower_of_isDigit (hd : d.isDigit = true) : d.toLower = d := by
  have hrange := (Text.toNat_of_isDigit hd).2
  unfold Char.toLower
  split
  · rename_i h
    have hlow : 65 ≤ d.toNat := h.1
    omega
  · rfl

theorem decimal_fraction (hds : IsDigits ds) (hfs : IsDigits fs) (hx : Exponent x k) :
    Yaml.decimal (ds ++ '.' :: (fs ++ x)) =
      .ok (Decimal.nearest (numeral (ds ++ fs)) (k - fs.length)) := by
  have hvalue := unsignedDecimal?_fraction hds hfs hx
  rw [Yaml.decimal, trimNumber_fraction hds hfs hx]
  obtain ⟨d, t, rfl, hd⟩ := hds.exists_cons
  have hlookup : Yaml.unusualDecimals.lookup
      (String.ofList ((d :: (t ++ '.' :: (fs ++ x))).map Char.toLower)) = none := by
    have hall : (Yaml.unusualDecimals.all fun p => p.1.toList.head?.all fun c => !c.isDigit)
        = true := rfl
    refine List.lookup_eq_none_iff.2 fun p hp => bne_iff_ne.2 fun h => ?_
    have hnot := List.all_eq_true.1 hall p hp
    rw [← h, String.toList_ofList, List.map_cons, toLower_of_isDigit hd, List.head?_cons,
      Option.all_some, hd] at hnot
    cases hnot
  simp only [List.cons_append, unsigned_of_isDigit hd, hlookup] at hvalue ⊢
  rw [hvalue]
  simp [ne_of_isDigit hd (show '-'.isDigit = false by decide)]

theorem Exponent.colon_not_mem (hx : Exponent x k) : ':' ∉ x := by
  cases hx with
  | absent => exact List.not_mem_nil
  | plus hes => simpa using not_mem_digits hes.2 (by decide)
  | minus hes => simpa using not_mem_digits hes.2 (by decide)

theorem floatValue_fraction (hds : IsDigits ds) (hfs : IsDigits fs) (hx : SpellsExponent x e) :
    let x' := Decimal.nearest (numeral (ds ++ fs)) (e.getD 0 - fs.length)
    Yaml.floatValue (minus negative ++ (ds ++ '.' :: (fs ++ x))) =
      .ok (if negative then -x' else x') := by
  have hbare := bareNumber_fraction negative hds hfs hx
  obtain ⟨-, hx'⟩ := lower_exponent hx
  generalize x.flatMap Text.lowerChar = x' at hbare hx'
  have hdecimal := decimal_fraction hds hfs hx'
  have hcolon : (ds ++ '.' :: (fs ++ x')).contains ':' = false := by
    have hexponent := hx'.colon_not_mem
    have hds' := not_mem_digits (c := ':') hds.2 (by decide)
    have hfs' := not_mem_digits (c := ':') hfs.2 (by decide)
    rw [← Bool.not_eq_true, List.contains_iff_mem]
    simp [hds', hfs', hexponent]
  obtain ⟨d, t, rfl, hd⟩ := hds.exists_cons
  rw [List.cons_append] at hdecimal hcolon
  have hname {name : List Char} (h : name.head? = some '.') :
      d :: (t ++ '.' :: (fs ++ x')) ≠ name := by
    rintro rfl
    exact ne_of_isDigit hd (show '.'.isDigit = false by decide) (Option.some.inj h)
  have hinf := @hname ".inf".toList rfl
  have hnan := @hname ".nan".toList rfl
  have hempty : (minus negative ++ d :: (t ++ '.' :: (fs ++ x'))).isEmpty = false := by
    cases negative <;> rfl
  rw [Yaml.floatValue, hbare]
  simp only [List.cons_append, hempty, unsigned_minus negative hd, head?_minus negative hd,
    hinf, hnan, hcolon, hdecimal]
  rfl

/-- The value of a fraction, with or without an exponent. -/
theorem numberOf_fraction (hfs : IsDigits fs) : numberOf negative ds fs e =
    let x := Decimal.nearest (numeral (ds ++ fs)) (e.getD 0 - fs.length)
    .float (if negative then -x else x) := by
  cases e with
  | some e => rfl
  | none =>
    have hempty : fs.isEmpty = false := by
      obtain ⟨d, t, rfl, -⟩ := hfs.exists_cons
      rfl
    simp only [numberOf, hempty, Option.getD_none, Int.zero_sub]
    rfl

end

end ClientScribe.Common
