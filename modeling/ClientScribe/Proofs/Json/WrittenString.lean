import ClientScribe.Json.Reader
import ClientScribe.Json.Writer

/-!
Reading back a written string.  Every character but for a half of a surrogate pair is read back as
itself; a half comes back as the unit that it stands for, and what a reader makes of that depends on
the unit before it.
-/

namespace ClientScribe

namespace Text

/-- The halves are the private characters behind the surrogates. -/
theorem half?_eq_some_iff {c : Char} {unit : Nat} :
    half? c = some unit ↔ c.toNat = unit + halfOffset ∧ 0xD800 ≤ unit ∧ unit < 0xE000 := by
  have hoffset : halfOffset = 0xF0000 := rfl
  rw [half?, Option.ite_none_right_eq_some, Option.some.injEq, Bool.and_eq_true, decide_eq_true_eq,
    decide_eq_true_eq]
  omega

theorem isStorable_iff {s : String} : isStorable s = true ↔ ∀ c ∈ s.toList, half? c = none := by
  simp [isStorable, isHalf]

/-- No character has the code of a surrogate. -/
theorem toNat_not_surrogate (c : Char) :
    c.toNat < 0xD800 ∨ (0xDFFF < c.toNat ∧ c.toNat < 0x110000) := by
  have h : c.toNat.isValidChar := c.valid
  simp only [Nat.isValidChar] at h
  omega

theorem half?_eq_none_of_lt {c : Char} (h : c.toNat < 0x10000) : half? c = none := by
  cases hc : half? c with
  | none => rfl
  | some unit =>
    have hunit := half?_eq_some_iff.1 hc
    simp only [halfOffset] at hunit
    omega

theorem isStorable_append {a b : String} :
    isStorable (a ++ b) = true ↔ isStorable a = true ∧ isStorable b = true := by
  simp [isStorable]

theorem isStorable_toString (n : Nat) : isStorable (toString n) = true := by
  rw [isStorable_iff]
  intro c hc
  rw [Nat.toString_eq_repr, Nat.toList_repr] at hc
  have hdigit := Nat.isDigit_of_mem_toDigits (by decide) (by decide) hc
  rw [Char.isDigit, Bool.and_eq_true, decide_eq_true_eq, decide_eq_true_eq] at hdigit
  exact half?_eq_none_of_lt (Nat.lt_of_le_of_lt hdigit.2 (by decide))

theorem ofNat_toNat_of_eq {c : Char} {n : Nat} (h : n = c.toNat) : Char.ofNat n = c := by
  rw [h, Char.ofNat_toNat]

theorem isLowSurrogate_of_isHighSurrogate {n : Nat} (h : isHighSurrogate n = true) :
    isLowSurrogate n = false := by
  simp only [isHighSurrogate, isLowSurrogate, Bool.and_eq_true, Bool.and_eq_false_imp,
    decide_eq_true_eq, decide_eq_false_iff_not] at h ⊢
  omega

/-- A character beyond U+FFFF is written by a pair of surrogates. -/
theorem pair_of_toNat {c : Char} (hc : 0x10000 ≤ c.toNat) :
    isHighSurrogate (0xD800 + (c.toNat - 0x10000) / 0x400) = true
      ∧ isLowSurrogate (0xDC00 + (c.toNat - 0x10000) % 0x400) = true
      ∧ joinSurrogates (0xD800 + (c.toNat - 0x10000) / 0x400)
        (0xDC00 + (c.toNat - 0x10000) % 0x400) = c := by
  have hbound := toNat_not_surrogate c
  simp only [isHighSurrogate, isLowSurrogate, joinSurrogates, Bool.and_eq_true, decide_eq_true_eq]
  exact ⟨by omega, by omega, ofNat_toNat_of_eq (by omega)⟩

end Text

namespace Json

open Text

/-- What a reader has after one more character of a written string. -/
def take? (strict : Bool) (high : Option Nat) (done : List Char) (c : Char) :
    Option (Option Nat × List Char) :=
  match half? c with
  | some unit => takeUnit? strict high done unit
  | none => (settle? strict high done).map fun done => (none, c :: done)

/-- What a reader makes of the rest of a written string. -/
def reread? (strict : Bool) (high : Option Nat) (done : List Char) : List Char → Option (List Char)
  | [] => (settle? strict high done).map List.reverse
  | c :: cs => (take? strict high done c).bind fun state => reread? strict state.1 state.2 cs

theorem hex_four (n : Nat) :
    Text.hex 4 n = [hexDigit (n / 4096 % 16), hexDigit (n / 256 % 16), hexDigit (n / 16 % 16),
      hexDigit (n % 16)] := by
  simp only [Text.hex, List.nil_append, List.cons_append, Nat.div_div_eq_div_mul]

theorem codeUnit?_hex {n : Nat} (hn : n < 0x10000) :
    codeUnit? (hexDigit (n / 4096 % 16)) (hexDigit (n / 256 % 16)) (hexDigit (n / 16 % 16))
      (hexDigit (n % 16)) = some n := by
  have hmod (k : Nat) : hexValue? (hexDigit (k % 16)) = some (k % 16) :=
    hexValue?_hexDigit (Nat.mod_lt k (by decide))
  simp only [codeUnit?, hmod, Option.pure_def, Option.bind_eq_bind, Option.bind_some,
    Option.some.injEq]
  omega

section

variable (strict : Bool) (opened : List Char) (high : Option Nat) (done : List Char)

/-- Four digits are taken in as the unit that they write. -/
theorem stringRest_unit {a b c d : Char} {n : Nat} (hn : codeUnit? a b c d = some n) (e : Char)
    (s : List Char) :
    (stringRest strict opened high done ('\\' :: 'u' :: a :: b :: c :: d :: e :: s)).toOption =
      (takeUnit? strict high done n).bind fun state =>
        (stringRest strict opened state.1 state.2 (e :: s)).toOption := by
  rw [stringRest, hn, Option.bind_some]
  cases takeUnit? strict high done n with
  | none => rfl
  | some state => rfl

theorem stringRest_unitEscape {n : Nat} (hn : n < 0x10000) (e : Char) (s : List Char) :
    (stringRest strict opened high done (unitEscape n ++ e :: s)).toOption =
      (takeUnit? strict high done n).bind fun state =>
        (stringRest strict opened state.1 state.2 (e :: s)).toOption := by
  rw [unitEscape, hex_four]
  exact stringRest_unit strict opened high done (codeUnit?_hex hn) e s

theorem stringRest_unitPair {m n : Nat} (hm : m < 0x10000) (hn : n < 0x10000) (e : Char)
    (s : List Char) :
    (stringRest strict opened high done (unitEscape m ++ (unitEscape n ++ e :: s))).toOption =
      ((takeUnit? strict high done m).bind fun state => takeUnit? strict state.1 state.2 n).bind
        fun state => (stringRest strict opened state.1 state.2 (e :: s)).toOption := by
  -- the second escape begins with a character, which is what lets the first one be read
  have hnext : unitEscape n ++ e :: s = '\\' :: ('u' :: Text.hex 4 n ++ e :: s) := rfl
  rw [Option.bind_assoc, hnext, stringRest_unitEscape strict opened high done hm]
  congr 1
  funext state
  rw [← hnext, stringRest_unitEscape strict opened state.1 state.2 hn]

/-- A backslash and a letter are taken in as what they stand for. -/
theorem stringRest_letterEscape {letter c : Char} (hc : unescape? letter = some c) (s : List Char) :
    (stringRest strict opened high done ('\\' :: letter :: s)).toOption =
      (settle? strict high done).bind fun done =>
        (stringRest strict opened none (c :: done) s).toOption := by
  have hu : letter ≠ 'u' := by
    rintro rfl
    simp [unescape?] at hc
  rw [stringRest.eq_4 strict opened high done letter s (fun _ _ _ _ _ _ h _ => hu h), if_neg hu, hc]
  cases settle? strict high done with
  | none => rfl
  | some done => rfl

/-- A character that needs no escape is taken in as itself. -/
theorem stringRest_plain {c : Char} (hq : c ≠ '"') (hb : c ≠ '\\') (hc : 0x20 ≤ c.toNat)
    (s : List Char) :
    (stringRest strict opened high done (c :: s)).toOption =
      (settle? strict high done).bind fun done =>
        (stringRest strict opened none (c :: done) s).toOption := by
  rw [stringRest.eq_5 strict opened high done c s (fun h => absurd h hb)
    (fun _ _ _ _ _ _ h => absurd h hb) (fun _ _ h => absurd h hb), if_neg hq,
    if_neg (Nat.not_lt.2 hc)]
  cases settle? strict high done with
  | none => rfl
  | some done => rfl

/-- A quote ends the string, if no half waits. -/
theorem stringRest_quote (s : List Char) :
    (stringRest strict opened high done ('"' :: s)).toOption =
      (settle? strict high done).map fun done => (done.reverse, s) := by
  rw [stringRest.eq_5 strict opened high done '"' s (by simp) (by simp) (by simp), if_pos rfl]
  cases settle? strict high done with
  | none => rfl
  | some done => rfl

theorem take?_of_half?_eq_none {c : Char} (hc : half? c = none) :
    take? strict high done c = (settle? strict high done).map fun done => (none, c :: done) := by
  simp only [take?, hc]

/-- A unit below the surrogates or above them stands for its character. -/
theorem takeUnit?_toNat {c : Char} (hc : c.toNat < 0x10000) :
    takeUnit? strict high done c.toNat = take? strict high done c := by
  have hlow : isLowSurrogate c.toNat = false := by
    have := toNat_not_surrogate c
    simp only [isLowSurrogate, Bool.and_eq_false_imp, decide_eq_true_eq, decide_eq_false_iff_not]
    omega
  have hhigh : isHighSurrogate c.toNat = false := by
    have := toNat_not_surrogate c
    simp only [isHighSurrogate, Bool.and_eq_false_imp, decide_eq_true_eq, decide_eq_false_iff_not]
    omega
  rw [take?_of_half?_eq_none _ _ _ (half?_eq_none_of_lt hc)]
  simp [takeUnit?, hlow, hhigh, Char.ofNat_toNat]

/-- The two units of a character beyond U+FFFF stand for that character. -/
theorem takeUnit?_pair {c : Char} (hc : 0x10000 ≤ c.toNat) (hhalf : half? c = none) :
    ((takeUnit? strict high done (0xD800 + (c.toNat - 0x10000) / 0x400)).bind fun state =>
        takeUnit? strict state.1 state.2 (0xDC00 + (c.toNat - 0x10000) % 0x400)) =
      take? strict high done c := by
  obtain ⟨hhigh, hlow, hjoin⟩ := pair_of_toNat hc
  have hfirst := isLowSurrogate_of_isHighSurrogate hhigh
  rw [take?_of_half?_eq_none _ _ _ hhalf]
  cases hs : settle? strict high done with
  | none => simp [takeUnit?, hfirst, hs]
  | some done => simp [takeUnit?, hfirst, hhigh, hlow, hs, hjoin]

/-- An escape by units is taken in as `take?` says. -/
theorem stringRest_codeEscape (c e : Char) (s : List Char) :
    (stringRest strict opened high done (codeEscape c ++ e :: s)).toOption =
      (take? strict high done c).bind fun state =>
        (stringRest strict opened state.1 state.2 (e :: s)).toOption := by
  rw [codeEscape]
  cases hc : half? c with
  | some unit =>
    have hunit := half?_eq_some_iff.1 hc
    have htake : take? strict high done c = takeUnit? strict high done unit := by
      simp only [take?, hc]
    rw [htake]
    exact stringRest_unitEscape strict opened high done (by omega) e s
  | none =>
    by_cases hlt : c.toNat < 0x10000
    · simp only [if_pos hlt]
      rw [← takeUnit?_toNat strict high done hlt]
      exact stringRest_unitEscape strict opened high done hlt e s
    · have hbound := toNat_not_surrogate c
      simp only [if_neg hlt, List.append_assoc]
      rw [← takeUnit?_pair strict high done (Nat.not_lt.1 hlt) hc]
      exact stringRest_unitPair strict opened high done (by omega) (by omega) e s

/-- A written character is taken in as `take?` says. -/
theorem stringRest_writtenChar (c e : Char) (s : List Char) :
    (stringRest strict opened high done (writtenChar c ++ e :: s)).toOption =
      (take? strict high done c).bind fun state =>
        (stringRest strict opened state.1 state.2 (e :: s)).toOption := by
  have hletter (letter c : Char) (hl : unescape? letter = some c) (hc : half? c = none) :
      (stringRest strict opened high done (['\\', letter] ++ e :: s)).toOption =
        (take? strict high done c).bind fun state =>
          (stringRest strict opened state.1 state.2 (e :: s)).toOption := by
    rw [take?_of_half?_eq_none _ _ _ hc]
    simp only [List.cons_append, List.nil_append]
    rw [stringRest_letterEscape strict opened high done hl, Option.bind_map]
    rfl
  unfold writtenChar
  split
  · exact hletter '"' '"' rfl (by decide)
  · exact hletter '\\' '\\' rfl (by decide)
  · exact hletter 'n' '\n' rfl (by decide)
  · exact hletter 'r' '\r' rfl (by decide)
  · exact hletter 't' '\t' rfl (by decide)
  · exact hletter 'b' '\x08' rfl (by decide)
  · exact hletter 'f' '\x0c' rfl (by decide)
  · rename_i hq hb _ _ _ _ _
    split
    · rename_i hrange
      simp only [Bool.and_eq_true, decide_eq_true_eq] at hrange
      have hlow : 0x20 ≤ c.toNat := hrange.1
      have hhigh : c.toNat ≤ 0x7E := hrange.2
      rw [take?_of_half?_eq_none _ _ _ (half?_eq_none_of_lt (by omega)), Option.bind_map]
      exact stringRest_plain strict opened high done hq hb hlow (e :: s)
    · exact stringRest_codeEscape strict opened high done c e s

/-- Reading a written string back up to its closing quote gives what `reread?` says. -/
theorem stringRest_written (cs rest : List Char) :
    (stringRest strict opened high done (cs.flatMap writtenChar ++ '"' :: rest)).toOption =
      (reread? strict high done cs).map fun s => (s, rest) := by
  induction cs generalizing high done with
  | nil => simp [reread?, stringRest_quote, Option.map_map, Function.comp_def]
  | cons c cs ih =>
    obtain ⟨e, s, hs⟩ : ∃ e s, cs.flatMap writtenChar ++ '"' :: rest = e :: s :=
      List.exists_cons_of_ne_nil (by simp)
    rw [List.flatMap_cons, List.append_assoc, hs, stringRest_writtenChar, reread?, Option.map_bind]
    congr 1
    funext state
    rw [← hs, ih]
    rfl

/-- Without halves a written string is read back as it was. -/
theorem reread?_of_no_half {cs : List Char} (h : ∀ c ∈ cs, half? c = none) :
    reread? strict none done cs = some (done.reverse ++ cs) := by
  induction cs generalizing done with
  | nil => simp [reread?, settle?]
  | cons c cs ih =>
    have hc : half? c = none := h c List.mem_cons_self
    have hcs : ∀ d ∈ cs, half? d = none := fun d hd => h d (List.mem_cons_of_mem c hd)
    rw [reread?, take?_of_half?_eq_none _ _ _ hc]
    simp [settle?, ih (c :: done) hcs]

end

/-- What a strict reader does with one more character: no half waits and the character is kept, or
no half waits and the character is one that waits from then on, or it completes the pair. -/
theorem take?_strict {high high' : Option Nat} {done done' : List Char} {c : Char}
    (h : take? true high done c = some (high', done')) :
    (high = none ∧ half? c = none ∧ high' = none ∧ done' = c :: done)
      ∨ (high = none ∧ (∃ unit, high' = some unit) ∧ done' = done)
      ∨ ((∃ unit, high = some unit) ∧ high' = none ∧ ∃ d, done' = d :: done) := by
  cases hc : half? c with
  | none =>
    rw [take?_of_half?_eq_none _ _ _ hc] at h
    cases high with
    | none =>
      simp only [settle?, Option.map_some, Option.some.injEq, Prod.mk.injEq] at h
      exact .inl ⟨rfl, rfl, h.1.symm, h.2.symm⟩
    | some unit => simp [settle?] at h
  | some unit =>
    simp only [take?, hc, takeUnit?] at h
    have hsurrogate : isLowSurrogate unit = false → isHighSurrogate unit = true := by
      have := half?_eq_some_iff.1 hc
      simp only [isLowSurrogate, isHighSurrogate, Bool.and_eq_false_imp, Bool.and_eq_true,
        decide_eq_true_eq, decide_eq_false_iff_not]
      omega
    cases high with
    | none =>
      cases hlow : isLowSurrogate unit with
      | true => simp [hlow] at h
      | false =>
        simp only [hlow, hsurrogate hlow, settle?, Bool.false_eq_true, if_false, if_true,
          Option.map_some, Option.some.injEq, Prod.mk.injEq] at h
        exact .inr (.inl ⟨rfl, ⟨unit, h.1.symm⟩, h.2.symm⟩)
    | some first =>
      cases hlow : isLowSurrogate unit with
      | true =>
        simp only [hlow, if_true, Option.some.injEq, Prod.mk.injEq] at h
        exact .inr (.inr ⟨⟨first, rfl⟩, h.1.symm, ⟨_, h.2.symm⟩⟩)
      | false => simp [hlow, settle?] at h

/-- A strict reader gives a written string back, or a shorter one.  The invariant counts characters:
a half that waits is a character that has not been given back yet, and only the other half of its
pair lets the reader go on. -/
theorem reread?_strict (cs s : List Char) :
    (∀ done, reread? true none done cs = some s →
      (s = done.reverse ++ cs ∧ ∀ c ∈ cs, half? c = none) ∨ s.length < done.length + cs.length)
    ∧ ∀ unit done, reread? true (some unit) done cs = some s →
      s.length ≤ done.length + cs.length := by
  induction cs with
  | nil =>
    constructor
    · intro done h
      simp only [reread?, settle?, Option.map_some, Option.some.injEq] at h
      exact .inl ⟨by simp [← h], by simp⟩
    · intro unit done h
      simp [reread?, settle?] at h
  | cons c cs ih =>
    constructor
    · intro done h
      obtain ⟨⟨high', done'⟩, htake, hrest⟩ := Option.bind_eq_some_iff.1 h
      rcases take?_strict htake with ⟨-, hc, rfl, rfl⟩ | ⟨-, ⟨unit, rfl⟩, rfl⟩ | ⟨⟨_, hne⟩, -⟩
      · rcases ih.1 _ hrest with ⟨rfl, hcs⟩ | hlt
        · exact .inl ⟨by simp, by simpa [hc] using hcs⟩
        · simp only [List.length_cons] at hlt ⊢
          exact .inr (by omega)
      · have hle := ih.2 unit done' hrest
        simp only [List.length_cons]
        exact .inr (by omega)
      · exact absurd hne (by simp)
    · intro unit done h
      obtain ⟨⟨high', done'⟩, htake, hrest⟩ := Option.bind_eq_some_iff.1 h
      rcases take?_strict htake with ⟨hne, -⟩ | ⟨hne, -⟩ | ⟨-, rfl, d, rfl⟩
      · exact absurd hne (by simp)
      · exact absurd hne (by simp)
      · rcases ih.1 _ hrest with ⟨rfl, -⟩ | hlt
        · simp only [List.length_append, List.length_reverse, List.length_cons]
          omega
        · simp only [List.length_cons] at hlt ⊢
          omega

/-- What a reader makes of a written string. -/
def rereadString? (strict : Bool) (s : String) : Option String :=
  (reread? strict none [] s.toList).map String.ofList

theorem string_written (strict : Bool) (s : String) (rest : List Char) :
    (string strict (s.toList.flatMap writtenChar ++ '"' :: rest)).toOption =
      (rereadString? strict s).map fun t => (t, rest) := by
  have h := stringRest_written strict ('"' :: (s.toList.flatMap writtenChar ++ '"' :: rest)) none []
    s.toList rest
  rw [string, rereadString?, Option.map_map]
  generalize stringRest strict _ none [] _ = step at h ⊢
  cases step with
  | error fault =>
    simp only [Except.toOption, Except.map] at h ⊢
    rw [eq_comm, Option.map_eq_none_iff] at h
    rw [h, Option.map_none]
  | ok r =>
    simp only [Except.toOption, Except.map] at h ⊢
    obtain ⟨cs, hcs, hr⟩ := Option.map_eq_some_iff.1 h.symm
    subst hr
    simp [hcs]

/-- A storable string survives writing and reading. -/
theorem rereadString?_of_isStorable {s : String} (strict : Bool) (h : isStorable s = true) :
    rereadString? strict s = some s := by
  rw [rereadString?, reread?_of_no_half strict [] (isStorable_iff.1 h)]
  simp

/-- A strict reader shortens a string that is not storable, or refuses it. -/
theorem rereadString?_strict {s t : String} (h : rereadString? true s = some t) :
    (t = s ∧ isStorable s = true) ∨ t.length < s.length := by
  obtain ⟨cs, hcs, rfl⟩ := Option.map_eq_some_iff.1 h
  rcases (reread?_strict s.toList cs).1 [] hcs with ⟨rfl, hhalf⟩ | hlt
  · exact .inl ⟨by simp, isStorable_iff.2 hhalf⟩
  · simp only [List.length_nil, Nat.zero_add] at hlt
    rw [String.length_ofList, ← String.length_toList]
    exact .inr hlt

end Json

end ClientScribe
