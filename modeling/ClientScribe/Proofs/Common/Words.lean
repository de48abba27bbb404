import ClientScribe.Proofs.Common.LineEnds

/-!
The strings and the words of common texts as documents read them: a string in double quotes gives
its characters, and a word between brackets is a plain text up to its end.
-/

namespace ClientScribe.Common

open Json (IsUnit letters)
open Yaml (Cursor PlainGap PlainText)

/-! ### Strings -/

theorem ofCode_toNat (c : Char) : Text.ofCode c.toNat = c := by
  have hhalf : (Text.isHighSurrogate c.toNat || Text.isLowSurrogate c.toNat) = false := by
    have hvalid : c.toNat < 0xD800 ∨ 0xDFFF < c.toNat ∧ c.toNat < 0x110000 := c.valid
    simp only [Text.isHighSurrogate, Text.isLowSurrogate, Bool.or_eq_false_iff,
      Bool.and_eq_false_iff, decide_eq_false_iff_not]
    omega
  rw [Text.ofCode, hhalf, if_neg Bool.false_ne_true, Char.ofNat_toNat]

theorem escape_letter {l c : Char} (h : (l, c) ∈ letters) (s : List Char) :
    Yaml.escape (l :: s) = .ok ([c], s) := by
  have hall : ∀ x ∈ letters, Yaml.escapes.lookup x.1 = some x.2.toNat := by decide
  rw [Yaml.escape, hall _ h]
  dsimp only
  rw [Char.ofNat_toNat]

theorem escape_unit {e : List Char} {n : Nat} (h : IsUnit e n) (s : List Char) :
    ∃ t, e = '\\' :: t ∧ Yaml.escape (t ++ s) = .ok ([Text.ofCode n], s) := by
  have hlt := h.lt
  obtain ⟨a, b, c, d, rfl, hn⟩ := h
  refine ⟨['u', a, b, c, d], rfl, ?_⟩
  simp only [Json.codeUnit?, Option.bind_eq_bind, Option.bind_eq_some_iff, Option.pure_def,
    Option.some.injEq] at hn
  obtain ⟨i, hi, j, hj, k, hk, l, hl, hn⟩ := hn
  have hnumber : Text.hexNumber [a, b, c, d] = n := by
    simp only [Text.hexNumber, List.foldl_cons, List.foldl_nil, hi, hj, hk, hl, Option.getD_some]
    omega
  have hhex : [a, b, c, d].all Text.isHex = true := by simp [Text.isHex, hi, hj, hk, hl]
  have hcode : Yaml.codeEscape 4 ([a, b, c, d] ++ s) = .ok (Text.ofCode n, s) := by
    unfold Yaml.codeEscape
    simp only [List.take_left' (show [a, b, c, d].length = 4 from rfl),
      List.drop_left' (show [a, b, c, d].length = 4 from rfl), hhex, hnumber]
    rw [if_neg (by simp), if_neg (by omega)]
  change (Yaml.codeEscape 4 ([a, b, c, d] ++ s)).map _ = _
  rw [hcode]
  rfl

section

variable {rounds : Nat} {done s : List Char}

theorem quotedText_plain {c : Char} (h : isPlain c = true) (hspace : c ≠ ' ') :
    Yaml.quotedText true (rounds + 1) done (c :: s) =
      Yaml.quotedText true rounds (c :: done) s := by
  obtain ⟨-, hbreak, hcontrol, hquote, hbackslash⟩ := of_isPlain h
  have htab : c ≠ '\t' := by
    rintro rfl
    exact absurd hcontrol (by decide)
  simp [Yaml.quotedText, hquote, hbackslash, Yaml.isGap, Yaml.isPad, hspace, htab, hbreak]

theorem quotedText_escape {t u : List Char} (h : Yaml.escape s = .ok (t, u)) :
    Yaml.quotedText true (rounds + 1) done ('\\' :: s) =
      Yaml.quotedText true rounds (t.reverse ++ done) u := by
  simp [Yaml.quotedText, h]

/-- Of blanks in a line the first may be taken by itself. -/
theorem quotedText_space {c : Char} (hbreak : ∀ d ∈ (c :: s).dropWhile Yaml.isPad |>.head?,
    Yaml.isBreak d = false) : ∃ more,
    Yaml.quotedText true (rounds + 1) done (' ' :: c :: s) =
      Yaml.quotedText true (rounds + more) (' ' :: done) (c :: s) := by
  by_cases hpad : Yaml.isPad c = true
  · refine ⟨1, ?_⟩
    have hc : c ≠ '"' ∧ c ≠ '\\' := by
      constructor <;> rintro rfl <;> cases hpad
    have hgap : Yaml.quotedGap (' ' :: c :: s) =
        (Yaml.quotedGap (c :: s)).map fun p => (' ' :: p.1, p.2) := by
      unfold Yaml.quotedGap
      rw [List.dropWhile_cons_of_pos (by rfl)]
      rcases hdrop : (c :: s).dropWhile Yaml.isPad with _ | ⟨d, rest⟩
      · rfl
      · rw [hdrop] at hbreak
        dsimp only
        rw [hbreak d rfl, List.takeWhile_cons_of_pos (by rfl)]
        rfl
    simp only [Yaml.quotedText, hgap, hc, Yaml.isGap, hpad]
    rcases Yaml.quotedGap (c :: s) with fault | ⟨text, rest⟩
    · rfl
    · simp [Except.map, Yaml.isPad]
  · refine ⟨0, ?_⟩
    have hdrop : (c :: s).dropWhile Yaml.isPad = c :: s := List.dropWhile_cons_of_neg hpad
    have hc : Yaml.isBreak c = false := hbreak c (by rw [hdrop]; rfl)
    have hgap : Yaml.quotedGap (' ' :: c :: s) = .ok ([' '], c :: s) := by
      unfold Yaml.quotedGap
      rw [List.dropWhile_cons_of_pos (by rfl), hdrop]
      dsimp only
      rw [hc, List.takeWhile_cons_of_pos (by rfl), List.takeWhile_cons_of_neg hpad]
      rfl
    simp [Yaml.quotedText, hgap, Yaml.isGap, Yaml.isPad]

end

theorem isBreak_behind_pads {s : List Char} (h : ∀ c ∈ s, Yaml.isBreak c = false)
    (rest : List Char) : ∀ d ∈ ((s ++ '"' :: rest).dropWhile Yaml.isPad).head?,
      Yaml.isBreak d = false := by
  induction s with
  | nil =>
    intro d hd
    cases hd
    rfl
  | cons c s ih =>
    rw [List.forall_mem_cons] at h
    intro d hd
    by_cases hpad : Yaml.isPad c = true
    · rw [List.cons_append, List.dropWhile_cons_of_pos hpad] at hd
      exact ih h.2 d hd
    · rw [List.cons_append, List.dropWhile_cons_of_neg hpad] at hd
      cases hd
      exact h.1

/-- What is spelled is read, up to the closing quote. -/
theorem quotedText_spelled {s t : List Char} (h : Spells s t) {rounds : Nat}
    (hrounds : s.length < rounds) (done rest : List Char) :
    Yaml.quotedText true rounds done (s ++ '"' :: rest) = .ok (done.reverse ++ t, rest) := by
  induction h generalizing rounds done with
  | nil =>
    obtain ⟨rounds, rfl⟩ := Nat.exists_eq_add_of_lt hrounds
    simp [Yaml.quotedText]
  | @plain c s t hc hs ih =>
    obtain ⟨rounds, rfl⟩ := Nat.exists_eq_add_of_lt (Nat.zero_lt_of_lt hrounds)
    rw [List.length_cons] at hrounds
    have hkept : (c :: done).reverse ++ t = done.reverse ++ c :: t := by simp
    rw [List.cons_append, ← hkept]
    by_cases hspace : c = ' '
    · subst hspace
      have hbreak := isBreak_behind_pads (fun d hd => (isFirm_of_spells hs d hd).unbroken) rest
      obtain ⟨x, y, hxy⟩ := List.exists_cons_of_ne_nil (show s ++ '"' :: rest ≠ [] by simp)
      rw [hxy] at hbreak ⊢
      obtain ⟨more, hread⟩ := quotedText_space hbreak
      rw [hread, ← hxy]
      exact ih (by omega) _
    · rw [quotedText_plain hc hspace]
      exact ih (by omega) _
  | @letter l c s t hl hs ih =>
    obtain ⟨rounds, rfl⟩ := Nat.exists_eq_add_of_lt (Nat.zero_lt_of_lt hrounds)
    rw [List.length_cons, List.length_cons] at hrounds
    rw [List.cons_append, List.cons_append, quotedText_escape (escape_letter hl _),
      ih (by omega)]
    simp
  | @unit e c s t he hs ih =>
    obtain ⟨rounds, rfl⟩ := Nat.exists_eq_add_of_lt (Nat.zero_lt_of_lt hrounds)
    obtain ⟨u, rfl, hescape⟩ := escape_unit he (s ++ '"' :: rest)
    rw [List.length_append, List.length_cons] at hrounds
    rw [List.append_assoc, List.cons_append, quotedText_escape hescape, ih (by omega),
      ofCode_toNat]
    simp
  | @half e n s t he hsurrogate halone hs ih =>
    obtain ⟨rounds, rfl⟩ := Nat.exists_eq_add_of_lt (Nat.zero_lt_of_lt hrounds)
    obtain ⟨u, rfl, hescape⟩ := escape_unit he (s ++ '"' :: rest)
    rw [List.length_append, List.length_cons] at hrounds
    rw [List.append_assoc, List.cons_append, quotedText_escape hescape, ih (by omega)]
    simp

/-- A string is read behind its opening quote. -/
theorem quoted_string {s : List Char} {name : String} (h : string s (.str name)) :
    ∃ t, s = '"' :: t ∧ ∀ rest, Yaml.Scalar.quoted true (t ++ rest) =
      .ok (.ofText name.toList, rest) := by
  obtain ⟨inner, name, rfl, hname, hspells⟩ := h
  cases hname
  refine ⟨inner ++ ['"'], rfl, fun rest => ?_⟩
  rw [List.append_assoc, List.cons_append, List.nil_append, Yaml.Scalar.quoted,
    quotedText_spelled hspells (by simp only [List.length_append]; omega)]
  rfl

/-! ### Words -/

/-- What may stand between the parts of a value once lines end in line feeds. -/
def IsFill (g : List Char) : Prop := ∀ c ∈ g, c = ' ' ∨ c = '\n'

theorem IsGap.isFill {g : List Char} (h : IsGap g) (hreturn : '\r' ∉ g) : IsFill g := by
  intro c hc
  rcases of_isGap (h c hc) with hspace | hbreak | rfl
  · exact .inl hspace
  · exact .inr hbreak
  · exact absurd hc hreturn

/-- What stands behind a value between brackets, and behind the gap there. -/
def IsClosed (rest : List Char) : Prop :=
  ∃ c t, rest = c :: t ∧ (c = ',' ∨ c = ']' ∨ c = '}')

/-- The characters of words. -/
def isWordChar (c : Char) : Bool := c.isAlphanum || c = '-' || c = '+' || c = '.'

/-- A word stands for a value without quotes. -/
structure IsWord (s : List Char) : Prop where
  chars : ∀ c ∈ s, isWordChar c = true
  head : ∃ c t, s = c :: t ∧ c ≠ '.' ∧ (c = '-' → ∃ d u, t = d :: u ∧ d.isDigit = true)

theorem isWordChar_of_isDigit {c : Char} (h : c.isDigit = true) : isWordChar c = true := by
  simp [isWordChar, Char.isAlphanum, h]

theorem isWord_of_name {s : List Char} {v : Json} (h : (s, v) ∈ names) : IsWord s := by
  have hall : (names.all fun x => x.1.all isWordChar &&
      x.1.head?.any fun c => c ≠ '.' && c ≠ '-') = true := rfl
  have hname := List.all_eq_true.1 hall _ h
  rw [Bool.and_eq_true] at hname
  obtain ⟨hchars, hhead⟩ := hname
  rcases s with _ | ⟨c, t⟩
  · cases hhead
  · simp only [List.head?_cons, Option.any_some, Bool.and_eq_true, decide_eq_true_eq] at hhead
    exact ⟨List.all_eq_true.1 hchars, c, t, rfl, hhead.1, fun h => absurd h hhead.2⟩

theorem isWordChar_of_exponent {x : List Char} {e : Option Int} (h : SpellsExponent x e) :
    ∀ c ∈ x, isWordChar c = true := by
  have hmarked {mark sign : Char} {ds : List Char} (hmark : mark = 'e' ∨ mark = 'E')
      (hsign : isWordChar sign = true) (hds : Json.IsDigits ds) :
      ∀ c ∈ mark :: sign :: ds, isWordChar c = true := by
    refine List.forall_mem_cons.2 ⟨?_, List.forall_mem_cons.2 ⟨hsign, fun c hc => ?_⟩⟩
    · rcases hmark with rfl | rfl <;> rfl
    · exact isWordChar_of_isDigit (hds.2 c hc)
  cases h with
  | absent => exact List.forall_mem_nil _
  | plus hmark hds => exact hmarked hmark rfl hds
  | minus hmark hds => exact hmarked hmark rfl hds

/-- A number without its sign begins with a digit. -/
theorem unsigned_word {negative : Bool} {s : List Char} {v : Json}
    (h : SpellsUnsigned negative s v) :
    (∀ c ∈ s, isWordChar c = true) ∧ ∃ d u, s = d :: u ∧ d.isDigit = true := by
  have hchars {ds : List Char} (hds : Json.IsDigits ds) : ∀ c ∈ ds, isWordChar c = true :=
    fun c hc => isWordChar_of_isDigit (hds.2 c hc)
  have hhead {ds : List Char} (hds : Json.IsDigits ds) : ∃ d u, ds = d :: u ∧ d.isDigit = true := by
    obtain ⟨d, u, rfl⟩ := List.exists_cons_of_ne_nil hds.1
    exact ⟨d, u, rfl, hds.2 d List.mem_cons_self⟩
  cases h with
  | whole hds => exact ⟨hchars hds, hhead hds⟩
  | fraction hds _ hfs hx =>
    obtain ⟨d, u, rfl, hd⟩ := hhead hds
    exact ⟨List.forall_mem_append.2 ⟨hchars hds, List.forall_mem_cons.2 ⟨rfl,
      List.forall_mem_append.2 ⟨hchars hfs, isWordChar_of_exponent hx⟩⟩⟩, d, _, rfl, hd⟩

theorem isWord_of_number {s : List Char} {v : Json} (h : number s v) : IsWord s := by
  cases h with
  | positive h =>
    obtain ⟨hchars, d, u, rfl, hd⟩ := unsigned_word h
    refine ⟨hchars, d, u, rfl, ?_, ?_⟩ <;> rintro rfl <;> cases hd
  | negative h =>
    obtain ⟨hchars, hhead⟩ := unsigned_word h
    exact ⟨List.forall_mem_cons.2 ⟨rfl, hchars⟩, '-', _, rfl, by decide, fun _ => hhead⟩

/-- A character of a word has no meaning of its own between brackets. -/
theorem not_sign_of_isWordChar {c : Char} (h : isWordChar c = true) :
    Yaml.isGap c = false ∧ Yaml.isFlowSign c = false ∧ Yaml.isSign c = false ∧ c ≠ ':' ∧
      c ≠ '?' := by
  have hne {d : Char} (hd : isWordChar d = false) : c ≠ d := by
    rintro rfl
    rw [h] at hd
    cases hd
  have hnot {ds : List Char} (hds : ds.any isWordChar = false) : ds.contains c = false := by
    rw [List.contains_eq_mem, decide_eq_false_iff_not]
    exact fun hc => List.any_eq_false.1 hds c hc h
  refine ⟨?_, hnot rfl, hnot rfl, hne (by decide), hne (by decide)⟩
  simp only [Yaml.isGap, Yaml.isPad, Yaml.isBreak, Bool.or_eq_false_iff, decide_eq_false_iff_not]
  exact ⟨⟨hne (by decide), hne (by decide)⟩,
    ⟨⟨⟨hne (by decide), hne (by decide)⟩, hne (by decide)⟩, hne (by decide)⟩⟩

theorem startsPlain_word {s : List Char} (h : IsWord s) (rest : List Char) :
    Yaml.startsPlain true (s ++ rest) = true := by
  obtain ⟨hchars, c, t, rfl, -, hminus⟩ := h
  obtain ⟨hgap, hflow, hsign, hcolon, hquestion⟩ := not_sign_of_isWordChar
    (hchars c List.mem_cons_self)
  rw [List.cons_append, Yaml.startsPlain]
  split
  · obtain ⟨d, u, rfl, hd⟩ := hminus ‹_›
    obtain ⟨hgap, -⟩ := not_sign_of_isWordChar (isWordChar_of_isDigit hd)
    rw [List.cons_append, Yaml.atGap, hgap]
    rfl
  · simp [hcolon, hquestion, hgap, hflow, hsign]

section

variable {g rest : List Char} (hg : IsFill g) (hrest : IsClosed rest)

include hg hrest

theorem plainRun_fill : Yaml.plainRun true (g ++ rest) = [] := by
  obtain ⟨c, t, rfl, hc⟩ := hrest
  rcases g with _ | ⟨d, g⟩
  · rcases hc with rfl | rfl | rfl <;> rfl
  · rcases hg d List.mem_cons_self with rfl | rfl <;> rfl

theorem plainRun_word {s : List Char} (h : ∀ c ∈ s, isWordChar c = true) :
    Yaml.plainRun true (s ++ (g ++ rest)) = s := by
  induction s with
  | nil =>
    rw [List.nil_append]
    exact plainRun_fill hg hrest
  | cons c s ih =>
    rw [List.forall_mem_cons] at h
    obtain ⟨hgap, hflow, -, hcolon, hquestion⟩ := not_sign_of_isWordChar h.1
    rw [List.cons_append, Yaml.plainRun, hgap, hflow, ih h.2]
    simp [hcolon, hquestion]

theorem read_lines_fill (lineStart : Bool) :
    (Yaml.Lines.read (· = ' ') lineStart (g ++ rest)).rest = rest := by
  induction g generalizing lineStart with
  | nil =>
    obtain ⟨c, t, rfl, hc⟩ := hrest
    rcases hc with rfl | rfl | rfl <;> simp [Yaml.Lines.read, Yaml.isMarker, Yaml.isBreak]
  | cons d g ih =>
    rw [IsFill, List.forall_mem_cons] at hg
    rw [List.cons_append, Yaml.Lines.read]
    rcases hg.1 with rfl | rfl
    · simpa [Yaml.isMarker, Yaml.isBreak] using ih hg.2 false
    · simpa [Yaml.isMarker, Yaml.isBreak] using ih hg.2 true

omit hrest in
/-- A gap is spaces, and further lines perhaps. -/
theorem exists_spaces : ∃ spaces u, g ++ rest = spaces ++ u ∧ (∀ c ∈ spaces, c = ' ') ∧
    (u = rest ∨ ∃ g', u = '\n' :: (g' ++ rest) ∧ IsFill g') := by
  induction g with
  | nil => exact ⟨[], rest, rfl, List.forall_mem_nil _, .inl rfl⟩
  | cons d g ih =>
    rw [IsFill, List.forall_mem_cons] at hg
    rcases hg.1 with rfl | rfl
    · obtain ⟨spaces, u, hu, hspaces, hend⟩ := ih hg.2
      exact ⟨' ' :: spaces, u, congrArg _ hu, List.forall_mem_cons.2 ⟨rfl, hspaces⟩, hend⟩
    · exact ⟨[], _, rfl, List.forall_mem_nil _, .inr ⟨g, rfl, hg.2⟩⟩

theorem rest_plainGap {c : Cursor} (hc : c.rest = g ++ rest) :
    (PlainGap.read c).cursor.rest = rest := by
  obtain ⟨spaces, u, hu, hspaces, hend⟩ := @exists_spaces g rest hg
  have htake : c.rest.takeWhile (· = ' ') = spaces := by
    have hhead : u.takeWhile (· = ' ') = [] := by
      rcases hend with rfl | ⟨g', rfl, -⟩
      · obtain ⟨d, t, rfl, hd⟩ := hrest
        rcases hd with rfl | rfl | rfl <;> rfl
      · rfl
    rw [hc, hu, List.takeWhile_append_of_pos (by simpa using hspaces), hhead, List.append_nil]
  have hbehind : (c.skip spaces.length).rest = u := by
    rw [Cursor.rest_skip, hc, hu, List.drop_left]
  unfold PlainGap.read
  simp only [htake, hbehind]
  rcases hend with rfl | ⟨g', rfl, hg'⟩
  · obtain ⟨d, t, rfl, hd⟩ := hrest
    have hbreak : Yaml.isBreak d = false := by rcases hd with rfl | rfl | rfl <;> rfl
    simp only [hbreak]
    exact hbehind
  · have hlines := read_lines_fill hg' hrest true
    refine (Cursor.rest_moveTo ?_).trans hlines
    rw [hlines, hbehind]
    exact (List.suffix_append g' rest).trans (List.suffix_cons _ _)

/-- A word is read, and the gap behind it. -/
theorem plainText_word {s : List Char} (h : IsWord s) {c : Cursor}
    (hc : c.rest = s ++ (g ++ rest)) (least : Nat) :
    (PlainText.read true least c).text = s ∧ (PlainText.read true least c).cursor.rest = rest := by
  obtain ⟨d, t, hs, -⟩ := h.head
  have hhash : c.rest.head? ≠ some '#' := by
    rw [hc, hs]
    have hsign := (not_sign_of_isWordChar (h.chars d (hs ▸ List.mem_cons_self))).2.2.1
    rintro hd
    cases hd
    cases hsign
  have hrun : Yaml.plainRun true c.rest = s := hc ▸ plainRun_word hg hrest h.chars
  have hgap : (PlainGap.read (c.skip s.length)).cursor.rest = rest :=
    rest_plainGap hg hrest (by rw [Cursor.rest_skip, hc, List.drop_left])
  have hstop : Yaml.plainRun true rest = [] :=
    plainRun_fill (g := []) (List.forall_mem_nil _) hrest
  obtain ⟨rounds, hrounds⟩ : ∃ rounds, c.rest.length = rounds + 1 := ⟨_, by rw [hc, hs]; rfl⟩
  have hempty : s.isEmpty = false := by rw [hs]; rfl
  rw [PlainText.read, hrounds, Yaml.plainRuns, hrun]
  simp only [hhash, hempty]
  split
  · simp_all
  · split
    · simp [hgap]
    · rw [Yaml.plainRuns, hgap, hstop]
      simp [hgap]

end

end ClientScribe.Common
