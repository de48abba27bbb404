import ClientScribe.Proofs.Json.ReadBack

/-!
The texts of a value.  A value has many: gaps may stand between its parts, and a character of a
string can stand for itself or be escaped in several ways.  A reader gives the value back whatever
its text is.  The values here are strings, and objects whose members are spelled in a given way.
-/

namespace ClientScribe.Json

open Text (isHighSurrogate isLowSurrogate joinSurrogates ofCode)

/-- The letters that stand for a character behind a backslash. -/
def letters : List (Char × Char) :=
  [('"', '"'), ('\\', '\\'), ('/', '/'), ('b', '\x08'), ('f', '\x0c'), ('n', '\n'), ('r', '\r'),
    ('t', '\t')]

/-- The escape of a code unit: four hexadecimal digits in either case. -/
def IsUnit (s : List Char) (n : Nat) : Prop :=
  ∃ a b c d, s = ['\\', 'u', a, b, c, d] ∧ codeUnit? a b c d = some n

/-- A text goes on with the escape of the second half of a pair. -/
def StartsLow (s : List Char) : Prop :=
  ∃ e n rest, s = e ++ rest ∧ IsUnit e n ∧ isLowSurrogate n = true

/-- What stands between the quotes of a string, and the characters of the string. -/
inductive Spells : List Char → List Char → Prop
  | nil : Spells [] []
  | plain {c : Char} {s t : List Char} (quote : c ≠ '"') (backslash : c ≠ '\\')
    (control : 0x20 ≤ c.toNat) (rest : Spells s t) : Spells (c :: s) (c :: t)
  | letter {l c : Char} {s t : List Char} (h : (l, c) ∈ letters) (rest : Spells s t) :
    Spells ('\\' :: l :: s) (c :: t)
  | unit {e : List Char} {c : Char} {s t : List Char} (h : IsUnit e c.toNat) (rest : Spells s t) :
    Spells (e ++ s) (c :: t)
  | pair {e e' : List Char} {m n : Nat} {s t : List Char} (first : IsUnit e m)
    (high : isHighSurrogate m = true) (second : IsUnit e' n) (low : isLowSurrogate n = true)
    (rest : Spells s t) : Spells (e ++ (e' ++ s)) (joinSurrogates m n :: t)
  /-- Half a pair stands for itself where it is not completed. -/
  | half {e : List Char} {n : Nat} {s t : List Char} (h : IsUnit e n)
    (surrogate : isHighSurrogate n = true ∨ isLowSurrogate n = true)
    (alone : isHighSurrogate n = true → ¬ StartsLow s) (rest : Spells s t) :
    Spells (e ++ s) (ofCode n :: t)

/-! ### Reading strings -/

theorem unescape?_of_mem_letters {l c : Char} (h : (l, c) ∈ letters) : unescape? l = some c := by
  have hall : ∀ x ∈ letters, unescape? x.1 = some x.2 := by decide
  exact hall (l, c) h

theorem codeUnit?_lt {a b c d : Char} {n : Nat} (h : codeUnit? a b c d = some n) :
    n < 0x10000 := by
  simp only [codeUnit?, Option.bind_eq_bind, Option.bind_eq_some_iff, Option.pure_def,
    Option.some.injEq] at h
  obtain ⟨i, hi, j, hj, k, hk, l, hl, rfl⟩ := h
  have := Text.hexValue?_lt hi
  have := Text.hexValue?_lt hj
  have := Text.hexValue?_lt hk
  have := Text.hexValue?_lt hl
  omega

theorem IsUnit.lt {s : List Char} {n : Nat} (h : IsUnit s n) : n < 0x10000 := by
  obtain ⟨a, b, c, d, -, hn⟩ := h
  exact codeUnit?_lt hn

section

variable {e s t : List Char} {n : Nat} (opened : List Char) (high : Option Nat) (done : List Char)

theorem stringRest_isUnit (h : IsUnit e n) (hs : s ≠ []) :
    (stringRest false opened high done (e ++ s)).toOption =
      (takeUnit? false high done n).bind fun state =>
        (stringRest false opened state.1 state.2 s).toOption := by
  obtain ⟨a, b, c, d, rfl, hn⟩ := h
  obtain ⟨x, s, rfl⟩ := List.exists_cons_of_ne_nil hs
  exact stringRest_unit false opened high done hn x s

theorem takeUnit?_high (h : isHighSurrogate n = true) :
    takeUnit? false high done n = (settle? false high done).map fun done => (some n, done) := by
  simp [takeUnit?, Text.isLowSurrogate_of_isHighSurrogate h, h]

/-- What is spelled is read, in front of the closing quote.  Half a pair that waits is given back by
itself, unless the text completes it. -/
theorem stringRest_spelled (h : Spells s t) (hwaiting : high = none ∨ ¬ StartsLow s)
    (rest : List Char) :
    (stringRest false opened high done (s ++ '"' :: rest)).toOption =
      (settle? false high done).map fun done => (done.reverse ++ t, rest) := by
  have hkept (c : Char) (done t : List Char) : (settle? false none (c :: done)).map
      (fun done => (done.reverse ++ t, rest)) = some (done.reverse ++ c :: t, rest) := by
    simp [settle?]
  -- only the escape of a first half leaves one waiting; anything else settles the one before it
  induction h generalizing high done with
  | nil => simp [stringRest_quote]
  | @plain c s t hq hb hc hrest ih =>
    rw [List.cons_append, stringRest_plain false opened high done hq hb hc, Option.map_eq_bind]
    congr 1
    funext done
    exact (ih none _ (.inl rfl)).trans (hkept c done t)
  | @letter l c s t hl hrest ih =>
    rw [List.cons_append, List.cons_append,
      stringRest_letterEscape false opened high done (unescape?_of_mem_letters hl),
      Option.map_eq_bind]
    congr 1
    funext done
    exact (ih none _ (.inl rfl)).trans (hkept c done t)
  | @unit e c s t he hrest ih =>
    rw [List.append_assoc, stringRest_isUnit opened high done he (by simp),
      takeUnit?_toNat false high done he.lt,
      take?_of_half?_eq_none _ _ _ (Text.half?_eq_none_of_lt he.lt), Option.bind_map,
      Option.map_eq_bind]
    congr 1
    funext done
    exact (ih none _ (.inl rfl)).trans (hkept c done t)
  | @pair e e' m n s t hfirst hhigh hsecond hlow hrest ih =>
    have hlast (done : List Char) :
        takeUnit? false (some m) done n = some (none, joinSurrogates m n :: done) := by
      simp [takeUnit?, hlow]
    rw [List.append_assoc, List.append_assoc, stringRest_isUnit opened high done hfirst (by simp),
      takeUnit?_high high done hhigh, Option.bind_map, Option.map_eq_bind]
    congr 1
    funext done
    rw [Function.comp_apply, stringRest_isUnit opened _ _ hsecond (by simp), hlast,
      Option.bind_some]
    exact (ih none _ (.inl rfl)).trans (hkept _ done t)
  | @half e n s t he hsurrogate halone hrest ih =>
    rw [List.append_assoc, stringRest_isUnit opened high done he (by simp)]
    by_cases hhigh : isHighSurrogate n = true
    · rw [takeUnit?_high high done hhigh, Option.bind_map, Option.map_eq_bind]
      congr 1
      funext done
      rw [Function.comp_apply, ih (some n) _ (.inr (halone hhigh))]
      simp [settle?]
    · have hlow : isLowSurrogate n = true := hsurrogate.resolve_left hhigh
      obtain rfl : high = none :=
        hwaiting.resolve_right fun h => h ⟨e, n, s, rfl, he, hlow⟩
      have htake : takeUnit? false none done n = some (none, ofCode n :: done) := by
        simp [takeUnit?, hlow]
      rw [htake, Option.bind_some]
      exact (ih none _ (.inl rfl)).trans (hkept _ done t)

/-- A string is read back from any of its texts. -/
theorem string_spelled (h : Spells s t) (rest : List Char) :
    string false (s ++ '"' :: rest) = .ok (String.ofList t, rest) := by
  have hread := stringRest_spelled ('"' :: (s ++ '"' :: rest)) none [] h (.inl rfl) rest
  rw [string, (Step.gives_some_iff (a := t)).1 hread]
  rfl

end

/-! ### Values -/

/-- Which texts stand for which values. -/
abbrev Spelling := List Char → Json → Prop

/-- The texts of strings. -/
def Spelling.string : Spelling := fun s v =>
  ∃ inner t, s = '"' :: (inner ++ ['"']) ∧ v = .str t ∧ Spells inner t.toList

section

variable (V : Spelling)

/-- The texts of a member: the key, a colon with gaps around, and the value. -/
def SpellsMember (s : List Char) (m : String × Json) : Prop :=
  ∃ k g g' v, s = k ++ (g ++ ':' :: (g' ++ v)) ∧ Spelling.string k (.str m.1) ∧ IsGap g ∧ IsGap g'
    ∧ V v m.2

/-- The texts of members, with commas between them. -/
inductive SpellsMembers : List Char → Members → Prop
  | last {s g : List Char} {m : String × Json} (member : SpellsMember V s m) (gap : IsGap g) :
    SpellsMembers (s ++ g) [m]
  | more {s g g' s' : List Char} {m : String × Json} {ms : Members} (member : SpellsMember V s m)
    (gap : IsGap g) (gap' : IsGap g') (others : SpellsMembers s' ms) :
    SpellsMembers (s ++ (g ++ ',' :: (g' ++ s'))) (m :: ms)

/-- The texts of objects whose values are spelled as `V` says.  The keys differ. -/
inductive Spelling.object : Spelling
  | empty {g : List Char} (gap : IsGap g) : object ('{' :: (g ++ ['}'])) (.obj [])
  | members {g s : List Char} {ms : Members} (gap : IsGap g) (h : SpellsMembers V s ms)
    (distinct : (ms.map Prod.fst).Nodup) : object ('{' :: (g ++ (s ++ ['}']))) (.obj ms)

/-- The texts that hold nothing but a value. -/
def Spelling.alone : Spelling := fun s v =>
  ∃ g inner g', s = g ++ (inner ++ g') ∧ IsGap g ∧ IsGap g' ∧ V inner v

end

/-! ### Reading values -/

/-- A text that may stand behind a value: it is empty, or begins with a gap or with what ends an
item or a member. -/
def IsBehind (s : List Char) : Prop := ∀ c ∈ s.head?, isGap c = true ∨ c ∈ [',', ']', '}']

theorem isBehind_nil : IsBehind [] := fun _ hc => absurd hc (by simp)

theorem isBehind_cons {c : Char} (hc : c ∈ [',', ']', '}']) (s : List Char) :
    IsBehind (c :: s) := by
  intro d hd
  rw [← Option.some.inj hd]
  exact .inr hc

theorem IsBehind.gap_append {g s : List Char} (hg : IsGap g) (hs : IsBehind s) :
    IsBehind (g ++ s) := by
  cases g with
  | nil => exact hs
  | cons d g =>
    intro c hc
    rw [← Option.some.inj hc]
    exact .inl (hg d List.mem_cons_self)

/-- What is spelled is read, whatever follows that may stand behind a value. -/
structure Spelling.IsReadBy (V : Spelling) (item : List Char → Step Json) : Prop where
  head {s : List Char} {v : Json} (h : V s v) :
    ∃ c rest, s = c :: rest ∧ isGap c = false ∧ c ≠ ']' ∧ c ≠ '\uFEFF'
  read {s : List Char} {v : Json} (h : V s v) {rest : List Char} (hrest : IsBehind rest) :
    item (s ++ rest) = .ok (v, rest)

section

variable {V : Spelling} {item : List Char → Step Json} {s : List Char}

theorem Spelling.IsReadBy.skipGap_append (hV : V.IsReadBy item) {v : Json} (h : V s v)
    (rest : List Char) : skipGap (s ++ rest) = s ++ rest := by
  obtain ⟨c, s, rfl, hc, -⟩ := hV.head h
  exact skipGap_cons hc (s ++ rest)

theorem Spelling.string_isReadBy (depth : Nat) : Spelling.string.IsReadBy (value false depth) where
  head := by
    rintro s v ⟨inner, t, rfl, -, -⟩
    exact ⟨'"', _, rfl, by decide, by decide, by decide⟩
  read := by
    rintro s v ⟨inner, t, rfl, rfl, h⟩ rest -
    have hstring := string_spelled h rest
    rw [String.ofList_toList] at hstring
    rw [List.cons_append, value_eq_scalar false depth (by decide) (by decide), List.append_assoc,
      List.singleton_append, scalar, hstring]
    rfl

/-- A key and its colon are read, up to the value. -/
theorem key_spelled {k g g' : List Char} {name : String} (hk : Spelling.string k (.str name))
    (hg : IsGap g) (hg' : IsGap g') (hs : skipGap s = s) :
    key false (k ++ (g ++ ':' :: (g' ++ s))) = .ok (name, s) := by
  obtain ⟨inner, t, rfl, ht, h⟩ := hk
  obtain rfl := Json.str.inj ht
  have hstring := string_spelled h (g ++ ':' :: (g' ++ s))
  rw [String.ofList_toList] at hstring
  simp only [List.cons_append, List.append_assoc, List.nil_append]
  rw [key, hstring]
  simp only [skipGap_append hg, skipGap_append hg', skipGap_cons (c := ':') (by decide), hs]

/-- Members start with the quote of a key. -/
theorem SpellsMembers.head {ms : Members} (h : SpellsMembers V s ms) : ∃ t, s = '"' :: t := by
  have hmember {s' : List Char} {m : String × Json} (hm : SpellsMember V s' m) :
      ∃ t, s' = '"' :: t := by
    obtain ⟨k, g, g', v, rfl, ⟨inner, t, rfl, -⟩, -⟩ := hm
    exact ⟨_, rfl⟩
  cases h with
  | last hm hgap =>
    obtain ⟨t, rfl⟩ := hmember hm
    exact ⟨_, rfl⟩
  | more hm hgap hgap' hothers =>
    obtain ⟨t, rfl⟩ := hmember hm
    exact ⟨_, rfl⟩

theorem SpellsMembers.skipGap_append {ms : Members} (h : SpellsMembers V s ms)
    (rest : List Char) : skipGap (s ++ rest) = s ++ rest := by
  obtain ⟨t, rfl⟩ := h.head
  exact skipGap_cons (by decide) _

theorem SpellsMembers.length_le {ms : Members} (h : SpellsMembers V s ms) :
    ms.length ≤ s.length := by
  induction h with
  | last hm hgap =>
    obtain ⟨k, g, g', v, rfl, -⟩ := hm
    simp only [List.length_append, List.length_cons, List.length_nil]
    omega
  | more hm hgap hgap' hothers ih =>
    simp only [List.length_append, List.length_cons]
    omega

/-- The key of a member is read, and behind it the value. -/
theorem SpellsMember.read (hV : V.IsReadBy item) {m : String × Json} (hm : SpellsMember V s m)
    {rest : List Char} (hrest : IsBehind rest) :
    ∃ s', key false (s ++ rest) = .ok (m.1, s') ∧ item s' = .ok (m.2, rest) := by
  obtain ⟨k, g, g', v, rfl, hk, hg, hg', hv⟩ := hm
  refine ⟨v ++ rest, ?_, hV.read hv hrest⟩
  have hkey := key_spelled hk hg hg' (hV.skipGap_append hv rest)
  simpa only [List.append_assoc, List.cons_append] using hkey

/-- The members are read one by one; behind each stands a comma or the brace, and gaps. -/
theorem members_spelled (hV : V.IsReadBy item) {ms : Members} (h : SpellsMembers V s ms)
    (rest : List Char) (done : Members) {rounds : Nat} (hrounds : ms.length ≤ rounds) :
    members false item rounds done (s ++ '}' :: rest) = .ok (override done ms, rest) := by
  have hclose : IsBehind ('}' :: rest) := isBehind_cons (by decide) rest
  induction h generalizing done rounds with
  | @last s g m hm hgap =>
    obtain ⟨rounds, rfl⟩ := Nat.exists_eq_add_of_le' hrounds
    obtain ⟨s', hkey, hvalue⟩ := hm.read hV (hclose.gap_append hgap)
    have hbrace : skipGap (g ++ '}' :: rest) = '}' :: rest := by
      rw [skipGap_append hgap, skipGap_cons (by decide)]
    rw [List.append_assoc]
    exact members_last _ done hkey hvalue hbrace
  | @more s g g' s' m ms hm hgap hgap' hothers ih =>
    obtain ⟨rounds, rfl⟩ : ∃ n, rounds = n + 1 :=
      Nat.exists_eq_succ_of_ne_zero (by simp only [List.length_cons] at hrounds; omega)
    have hmore : IsBehind (',' :: (g' ++ (s' ++ '}' :: rest))) := isBehind_cons (by decide) _
    obtain ⟨t, hkey, hvalue⟩ := hm.read hV (hmore.gap_append hgap)
    have hcomma : skipGap (g ++ ',' :: (g' ++ (s' ++ '}' :: rest))) =
        ',' :: (g' ++ (s' ++ '}' :: rest)) := by
      rw [skipGap_append hgap, skipGap_cons (by decide)]
    simp only [List.append_assoc, List.cons_append]
    rw [members_next rounds done hkey hvalue hcomma, skipGap_append hgap', hothers.skipGap_append]
    exact ih _ (Nat.le_of_succ_le_succ hrounds)

/-- An object is read from any of its texts, one level further in than its values. -/
theorem Spelling.object_isReadBy {depth : Nat} (hV : V.IsReadBy (value false depth)) :
    (Spelling.object V).IsReadBy (value false (depth + 1)) where
  head := by
    rintro s v (_ | _) <;> exact ⟨'{', _, rfl, by decide, by decide, by decide⟩
  read := by
    rintro s v (⟨hgap⟩ | ⟨hgap, h, hdistinct⟩) rest -
    · simp only [List.cons_append, List.append_assoc, List.nil_append]
      rw [value, skipGap_append hgap, skipGap_cons (by decide)]
      rfl
    · rename_i g s ms
      have hlength : ms.length ≤ (s ++ '}' :: rest).length + 1 := by
        have := h.length_le
        simp only [List.length_append]
        omega
      simp only [List.cons_append, List.append_assoc, List.nil_append]
      rw [value, skipGap_append hgap, h.skipGap_append]
      split
      · obtain ⟨t, rfl⟩ := h.head
        rename_i hbrace
        exact absurd (List.cons.inj hbrace).1 (by decide)
      · rw [members_spelled hV h rest [] hlength, override_eq_append hdistinct]
        rfl

/-- A whole text is read if nothing but gaps stands around the value. -/
theorem readWith_alone {depth : Nat} (hV : V.IsReadBy (value false depth)) {v : Json}
    (h : V.alone s v) : readWith false depth s = .ok v := by
  obtain ⟨g, inner, g', rfl, hg, hg', hv⟩ := h
  obtain ⟨c, t, rfl, hc, -, hmark⟩ := hV.head hv
  have hhead : (g ++ (c :: t ++ g')).head? ≠ some '\uFEFF' := by
    cases g with
    | nil => simpa using hmark
    | cons d g =>
      intro hd
      have hgap := hg d List.mem_cons_self
      rw [Option.some.inj hd] at hgap
      exact absurd hgap (by decide)
  have hend := skipGap_append hg' []
  have hbehind := isBehind_nil.gap_append hg'
  rw [List.append_nil] at hend hbehind
  rw [readWith, if_neg hhead, skipGap_append hg, hV.skipGap_append hv, hV.read hv hbehind]
  simp only [hend]
  rfl

end

/-! ### Written texts

What is written is spelled, in any layout. -/

section

variable {s t : List Char}

theorem isUnit_unitEscape {n : Nat} (hn : n < 0x10000) : IsUnit (unitEscape n) n := by
  refine ⟨_, _, _, _, ?_, codeUnit?_hex hn⟩
  rw [unitEscape, hex_four]

theorem spells_codeEscape {c : Char} (hc : Text.half? c = none) (h : Spells s t) :
    Spells (codeEscape c ++ s) (c :: t) := by
  rw [codeEscape, hc]
  by_cases hlt : c.toNat < 0x10000
  · simp only [if_pos hlt]
    exact .unit (isUnit_unitEscape hlt) h
  · obtain ⟨hhigh, hlow, hjoin⟩ := Text.pair_of_toNat (Nat.not_lt.1 hlt)
    have hbound := Text.toNat_not_surrogate c
    have hpair := Spells.pair (isUnit_unitEscape (by omega)) hhigh (isUnit_unitEscape (by omega))
      hlow h
    rw [hjoin] at hpair
    simpa only [if_neg hlt, List.append_assoc] using hpair

theorem spells_writtenChar {c : Char} (hc : Text.half? c = none) (h : Spells s t) :
    Spells (writtenChar c ++ s) (c :: t) := by
  unfold writtenChar
  split
  · exact .letter (by decide) h
  · exact .letter (by decide) h
  · exact .letter (by decide) h
  · exact .letter (by decide) h
  · exact .letter (by decide) h
  · exact .letter (by decide) h
  · exact .letter (by decide) h
  · rename_i hq hb _ _ _ _ _
    split
    · rename_i hrange
      rw [Bool.and_eq_true, decide_eq_true_eq] at hrange
      exact .plain hq hb hrange.1 h
    · exact spells_codeEscape hc h

theorem spells_written (h : ∀ c ∈ t, Text.half? c = none) : Spells (t.flatMap writtenChar) t := by
  induction t with
  | nil => exact .nil
  | cons c t ih =>
    rw [List.forall_mem_cons] at h
    exact spells_writtenChar h.1 (ih h.2)

theorem Spelling.string_written {text : String} (h : Text.isStorable text = true) :
    Spelling.string (writtenString text) (.str text) :=
  ⟨_, text, rfl, rfl, spells_written (Text.isStorable_iff.1 h)⟩

theorem spellsMember_written {V : Spelling} {layout : Layout} {m : String × Json}
    (hkey : Text.isStorable m.1 = true) (hV : V (written layout m.2) m.2) :
    SpellsMember V (writtenString m.1 ++ (layout.colon ++ written layout m.2)) m := by
  have hstring := Spelling.string_written hkey
  cases layout with
  | compact => exact ⟨_, [], [], _, rfl, hstring, isGap_nil, isGap_nil, hV⟩
  | indented level =>
    exact ⟨_, [], [' '], _, rfl, hstring, isGap_nil, List.forall_mem_singleton.2 rfl, hV⟩

theorem spellsMembers_written {V : Spelling} {layout : Layout} (outer : Layout) {m : String × Json}
    {ms : Members} (hkeys : ∀ x ∈ m :: ms, Text.isStorable x.1 = true)
    (hV : ∀ x ∈ m :: ms, V (written layout x.2) x.2) :
    SpellsMembers V (writtenString m.1 ++ (layout.colon ++ written layout m.2)
      ++ (writtenMembers layout ms ++ outer.gap)) (m :: ms) := by
  induction ms generalizing m with
  | nil =>
    rw [List.forall_mem_cons] at hkeys hV
    exact .last (spellsMember_written hkeys.1 hV.1) (isGap_gap outer)
  | cons x ms ih =>
    rw [List.forall_mem_cons] at hkeys hV
    have hmore := SpellsMembers.more (spellsMember_written hkeys.1 hV.1) isGap_nil
      (isGap_gap layout) (ih hkeys.2 hV.2)
    simpa [writtenMembers] using hmore

theorem Spelling.object_written {V : Spelling} {layout : Layout} {ms : Members}
    (hdistinct : (ms.map Prod.fst).Nodup) (hkeys : ∀ m ∈ ms, Text.isStorable m.1 = true)
    (hV : ∀ m ∈ ms, V (written layout.deeper m.2) m.2) :
    Spelling.object V (written layout (.obj ms)) (.obj ms) := by
  cases ms with
  | nil => exact .empty isGap_nil
  | cons m ms =>
    have hmembers := Spelling.object.members (isGap_gap layout.deeper)
      (spellsMembers_written layout hkeys hV) hdistinct
    simpa [written, colon_deeper] using hmembers

end

end ClientScribe.Json
