import ClientScribe.Proofs.Json.Spelling

/-!
The texts of all values: names, numbers and strings, and what is made of them by arrays and objects
that are nested so many levels deep.  A reader that follows so many levels gives the value of the
text, and one that follows fewer may give none.
-/

namespace ClientScribe.Json

open Text (maxDigits)

/-! ### Numbers -/

def IsDigits (ds : List Char) : Prop := ds ≠ [] ∧ ∀ d ∈ ds, d.isDigit = true

/-- The texts of a fraction, and its digits. -/
inductive SpellsFraction : List Char → List Char → Prop
  | absent : SpellsFraction [] []
  | digits {fs : List Char} (h : IsDigits fs) : SpellsFraction ('.' :: fs) fs

/-- The texts of the sign of an exponent. -/
inductive SpellsSign : List Char → Int → Prop
  | absent : SpellsSign [] 1
  | plus : SpellsSign ['+'] 1
  | minus : SpellsSign ['-'] (-1)

/-- The texts of an exponent. -/
inductive SpellsExponent : List Char → Option Int → Prop
  | absent : SpellsExponent [] none
  | digits {mark : Char} {signs ds : List Char} {sign : Int} (hmark : mark = 'e' ∨ mark = 'E')
    (hsign : SpellsSign signs sign) (hds : IsDigits ds) :
    SpellsExponent (mark :: (signs ++ ds)) (some (sign * numeral ds))

/-- The number that digits, a fraction and an exponent make: a whole one if it has neither. -/
def numberOf (negative : Bool) (ds fs : List Char) (exponent : Option Int) : Json :=
  let signed (x : Float) : Json := .float (if negative then -x else x)
  match exponent with
  | some e => signed (Decimal.nearest (numeral (ds ++ fs)) (e - fs.length))
  | none =>
    if fs.isEmpty then .int (if negative then -(numeral ds : Int) else numeral ds)
    else signed (Decimal.nearest (numeral (ds ++ fs)) (-fs.length))

/-- The texts of numbers without their signs.  A whole one has no more digits than can be read. -/
inductive SpellsUnsigned (negative : Bool) : Spelling
  | mk {ds f fs x : List Char} {e : Option Int} (hds : IsDigits ds)
    (hzero : ds.head? = some '0' → ds = ['0']) (hf : SpellsFraction f fs) (hx : SpellsExponent x e)
    (hlong : fs = [] → e = none → ds.length ≤ maxDigits) :
    SpellsUnsigned negative (ds ++ (f ++ x)) (numberOf negative ds fs e)

/-- The texts of numbers. -/
inductive Spelling.number : Spelling
  | positive {s : List Char} {v : Json} (h : SpellsUnsigned false s v) : number s v
  | negative {s : List Char} {v : Json} (h : SpellsUnsigned true s v) : number ('-' :: s) v

section

variable {ds fs f x rest : List Char} {e : Option Int} {c d : Char}

theorem ne_of_isDigit (hc : c.isDigit = true) (hd : d.isDigit = false) : c ≠ d := by
  rintro rfl
  exact absurd (hc.symm.trans hd) (by decide)

theorem IsDigits.exists_cons (h : IsDigits ds) : ∃ d ds', ds = d :: ds' ∧ d.isDigit = true := by
  obtain ⟨d, ds', rfl⟩ := List.exists_cons_of_ne_nil h.1
  exact ⟨d, ds', rfl, h.2 d List.mem_cons_self⟩

/-- What may stand behind a value goes on with none of these. -/
theorem IsBehind.ne {s : List Char} (h : IsBehind s) (hc : c ∈ s.head?)
    (hd : (isGap d || d = ',' || d = ']' || d = '}') = false) : c ≠ d := by
  rintro rfl
  simp only [Bool.or_eq_false_iff, decide_eq_false_iff_not] at hd
  rcases h c hc with hgap | hmem
  · exact absurd (hgap.symm.trans hd.1.1.1) (by decide)
  · simp [hd] at hmem

theorem IsBehind.not_isDigit {s : List Char} (h : IsBehind s) :
    ∀ c ∈ s.head?, c.isDigit = false := by
  intro c hc
  apply Bool.eq_false_iff.2
  intro hdigit
  rcases h c hc with hgap | hmem
  · simp only [isGap, Bool.or_eq_true, decide_eq_true_eq] at hgap
    rcases hgap with ((rfl | rfl) | rfl) | rfl <;> exact absurd hdigit (by decide)
  · have hall : [',', ']', '}'].any Char.isDigit = false := by decide
    exact absurd hdigit (List.any_eq_false.1 hall c hmem)

/-- Behind a fraction stands no digit and no point, whether there is an exponent or not. -/
theorem SpellsExponent.behind (hx : SpellsExponent x e) (hrest : IsBehind rest) :
    ∀ c ∈ (x ++ rest).head?, c.isDigit = false ∧ c ≠ '.' := by
  intro c hc
  cases hx with
  | absent => exact ⟨hrest.not_isDigit c hc, hrest.ne hc (by decide)⟩
  | digits hmark =>
    obtain rfl := Option.some.inj hc
    rcases hmark with rfl | rfl <;> decide

/-- Behind the digits in front of a point stands no digit. -/
theorem SpellsFraction.behind (hf : SpellsFraction f fs) (hx : SpellsExponent x e)
    (hrest : IsBehind rest) : ∀ c ∈ (f ++ (x ++ rest)).head?, c.isDigit = false := by
  cases hf with
  | absent => exact fun c hc => (hx.behind hrest c hc).1
  | digits => exact fun c hc => by rw [← Option.some.inj hc]; decide

theorem whole?_spelled (hds : IsDigits ds) (hzero : ds.head? = some '0' → ds = ['0'])
    (hrest : ∀ c ∈ rest.head?, c.isDigit = false) : whole? (ds ++ rest) = some (ds, rest) := by
  obtain ⟨d, ds', rfl, hd⟩ := hds.exists_cons
  rw [List.cons_append, whole?]
  by_cases hfirst : d = '0'
  · subst hfirst
    rw [if_pos rfl, (List.cons.inj (hzero rfl)).2, List.nil_append]
  · obtain ⟨hdrop, htake⟩ := Text.dropWhile_append_of_head?
      (fun c hc => hds.2 c (List.mem_cons_of_mem d hc)) hrest
    rw [if_neg hfirst, if_pos hd, htake, hdrop]

theorem fraction_spelled (hf : SpellsFraction f fs)
    (hrest : ∀ c ∈ rest.head?, c.isDigit = false ∧ c ≠ '.') :
    fraction (f ++ rest) = (fs, rest) := by
  cases hf with
  | absent =>
    rw [List.nil_append]
    unfold fraction
    split
    · exact absurd rfl (hrest '.' rfl).2
    · rfl
  | digits h =>
    obtain ⟨d, ds, rfl, hd⟩ := h.exists_cons
    obtain ⟨hdrop, htake⟩ := Text.dropWhile_append_of_head?
      (fun c hc => h.2 c (List.mem_cons_of_mem d hc)) fun c hc => (hrest c hc).1
    rw [List.cons_append, List.cons_append, fraction, if_pos hd, htake, hdrop]

theorem exponentDigits?_spelled (sign : Int) (hds : IsDigits ds)
    (hrest : ∀ c ∈ rest.head?, c.isDigit = false) :
    exponentDigits? sign (ds ++ rest) = some (sign * numeral ds, rest) := by
  obtain ⟨hdrop, htake⟩ := Text.dropWhile_append_of_head? hds.2 hrest
  rw [exponentDigits?, htake, hdrop]
  split
  · exact absurd rfl hds.1
  · rfl

theorem exponent?_unsigned {mark : Char} (hmark : mark = 'e' ∨ mark = 'E') {s : List Char}
    (hs : ∀ c ∈ s.head?, c ≠ '-' ∧ c ≠ '+') : exponent? (mark :: s) = exponentDigits? 1 s := by
  rw [exponent?]
  · exact if_pos (by simpa using hmark)
  · rintro t rfl
    exact (hs '-' rfl).1 rfl
  · rintro t rfl
    exact (hs '+' rfl).2 rfl

theorem exponent?_spelled (hx : SpellsExponent x e) (hrest : IsBehind rest) :
    exponent? (x ++ rest) = e.map fun e => (e, rest) := by
  cases hx with
  | absent =>
    cases rest with
    | nil => rfl
    | cons c rest =>
      have hlower : c ≠ 'e' := hrest.ne rfl (by decide)
      have hupper : c ≠ 'E' := hrest.ne rfl (by decide)
      simp [exponent?.eq_def, hlower, hupper]
  | @digits mark signs ds sign hmark hsign hds =>
    have hdigits := exponentDigits?_spelled sign hds hrest.not_isDigit
    cases hsign with
    | minus => rcases hmark with rfl | rfl <;> exact hdigits
    | plus => rcases hmark with rfl | rfl <;> exact hdigits
    | absent =>
      obtain ⟨d, ds', rfl, hd⟩ := hds.exists_cons
      refine (exponent?_unsigned hmark fun c hc => ?_).trans hdigits
      rw [← Option.some.inj hc]
      exact ⟨ne_of_isDigit hd (by decide), ne_of_isDigit hd (by decide)⟩

theorem numberBehind_spelled (negative : Bool) (hf : SpellsFraction f fs) (hx : SpellsExponent x e)
    (hrest : IsBehind rest) :
    numberBehind negative ds (f ++ (x ++ rest)) = (numberOf negative ds fs e, rest) := by
  rw [numberBehind, fraction_spelled hf (hx.behind hrest)]
  simp only [exponent?_spelled hx hrest]
  cases hx with
  | digits => rfl
  | absent =>
    simp only [Option.map_none, numberOf, List.nil_append]
    split <;> rfl

theorem isWhole_numberOf {negative : Bool} (h : isWhole (numberOf negative ds fs e) = true) :
    fs = [] ∧ e = none := by
  cases e with
  | some e => exact absurd h (by simp [numberOf, isWhole])
  | none =>
    by_cases hfs : fs.isEmpty = true
    · exact ⟨List.isEmpty_iff.1 hfs, rfl⟩
    · simp [numberOf, hfs, isWhole] at h

theorem SpellsUnsigned.head {negative : Bool} {s : List Char} {v : Json}
    (h : SpellsUnsigned negative s v) : ∃ d t, s = d :: t ∧ d.isDigit = true := by
  cases h with
  | mk hds =>
    obtain ⟨d, ds, rfl, hd⟩ := hds.exists_cons
    exact ⟨d, _, rfl, hd⟩

theorem unsigned?_spelled {negative : Bool} {s : List Char} {v : Json}
    (h : SpellsUnsigned negative s v) (hrest : IsBehind rest) :
    unsigned? false negative (s ++ rest) = some (.ok (v, rest)) := by
  cases h with
  | @mk ds f fs x e hds hzero hf hx hlong =>
    have hshort : (isWhole (numberOf negative ds fs e) && decide (maxDigits < ds.length)) =
        false := by
      rw [Bool.and_eq_false_imp]
      intro hwhole
      obtain ⟨hfs, he⟩ := isWhole_numberOf hwhole
      simpa using hlong hfs he
    rw [List.append_assoc, List.append_assoc, unsigned?,
      whole?_spelled hds hzero (hf.behind hx hrest), Option.map_some]
    simp [numberBehind_spelled negative hf hx hrest, hshort]

end

/-! ### Values that hold no others -/

/-- The names of values. -/
def names : List (List Char × Json) :=
  [("null".toList, .null), ("true".toList, .bool true), ("false".toList, .bool false),
    ("NaN".toList, .float (0 / 0)), ("Infinity".toList, .float (1 / 0)),
    ("-Infinity".toList, .float (-(1 / 0)))]

/-- The texts of values that hold no others. -/
inductive Spelling.scalar : Spelling
  | name {s : List Char} {v : Json} (h : (s, v) ∈ names) : scalar s v
  | number {s : List Char} {v : Json} (h : Spelling.number s v) : scalar s v
  | string {s : List Char} {v : Json} (h : Spelling.string s v) : scalar s v

section

variable {d : Char} {s : List Char}

theorem name?_of_isDigit (hd : d.isDigit = true) : name? (d :: s) = none := by
  unfold name?
  split
  all_goals
    first
    | rfl
    | rename_i heq
      exact absurd (List.cons.inj heq).1 (ne_of_isDigit hd (by decide))

theorem name?_of_minus (hd : d.isDigit = true) : name? ('-' :: d :: s) = none := by
  unfold name?
  split
  all_goals
    first
    | rfl
    | rename_i heq
      exact absurd (List.cons.inj heq).1 (by decide)
    | rename_i heq
      exact absurd (List.cons.inj (List.cons.inj heq).2).1 (ne_of_isDigit hd (by decide))

theorem number?_of_isDigit (hd : d.isDigit = true) :
    number? false (d :: s) = unsigned? false false (d :: s) := by
  unfold number?
  split
  · rename_i heq
    exact absurd (List.cons.inj heq).1 (ne_of_isDigit hd (by decide))
  · rfl

theorem scalar_of_number {c : Char} {r : Step Json} (hc : c ≠ '"')
    (hname : name? (c :: s) = none) (hnumber : number? false (c :: s) = some r) :
    Json.scalar false (c :: s) = r := by
  rw [Json.scalar, hname, hnumber]
  rintro t heq
  exact hc (List.cons.inj heq).1

theorem Spelling.number_isReadBy (depth : Nat) :
    Spelling.number.IsReadBy (Json.value false depth) where
  head := by
    rintro s v (h | h)
    · obtain ⟨d, t, rfl, hd⟩ := h.head
      refine ⟨d, t, rfl, ?_, ne_of_isDigit hd (by decide), ne_of_isDigit hd (by decide)⟩
      simp [isGap, ne_of_isDigit hd (show ' '.isDigit = false by decide),
        ne_of_isDigit hd (show '\t'.isDigit = false by decide),
        ne_of_isDigit hd (show '\n'.isDigit = false by decide),
        ne_of_isDigit hd (show '\r'.isDigit = false by decide)]
    · exact ⟨'-', _, rfl, by decide, by decide, by decide⟩
  read := by
    rintro s v (h | h) rest hrest
    · obtain ⟨d, t, rfl, hd⟩ := h.head
      have hread := unsigned?_spelled h hrest
      rw [List.cons_append] at hread ⊢
      rw [value_eq_scalar false depth (ne_of_isDigit hd (by decide))
          (ne_of_isDigit hd (by decide)), scalar_of_number (ne_of_isDigit hd (by decide))
          (name?_of_isDigit hd) ((number?_of_isDigit hd).trans hread)]
    · obtain ⟨d, t, rfl, hd⟩ := h.head
      have hread := unsigned?_spelled h hrest
      rw [List.cons_append] at hread ⊢
      rw [value_eq_scalar false depth (by decide) (by decide)]
      exact scalar_of_number (by decide) (name?_of_minus hd) hread

theorem Spelling.scalar_isReadBy (depth : Nat) :
    Spelling.scalar.IsReadBy (Json.value false depth) where
  head := by
    rintro s v (h | h | h)
    · have hall : ∀ x ∈ names, ∃ c rest, x.1 = c :: rest ∧ isGap c = false ∧ c ≠ ']'
          ∧ c ≠ '\uFEFF' := by
        simp only [names, List.forall_mem_cons]
        refine ⟨?_, ?_, ?_, ?_, ?_, ?_, List.forall_mem_nil _⟩ <;>
          exact ⟨_, _, rfl, by decide, by decide, by decide⟩
      exact hall _ h
    · exact (Spelling.number_isReadBy depth).head h
    · exact (Spelling.string_isReadBy depth).head h
  read := by
    rintro s v (h | h | h) rest hrest
    · have hall : ∀ x ∈ names, Json.value false depth (x.1 ++ rest) = .ok (x.2, rest) := by
        simp only [names, List.forall_mem_cons]
        refine ⟨?_, ?_, ?_, ?_, ?_, ?_, List.forall_mem_nil _⟩ <;>
          exact value_eq_scalar false depth (by decide) (by decide) _
      exact hall _ h
    · exact (Spelling.number_isReadBy depth).read h hrest
    · exact (Spelling.string_isReadBy depth).read h hrest

end

/-! ### Arrays, and values of any depth -/

section

variable (V : Spelling)

/-- The texts of items, with commas between them. -/
inductive SpellsItems : List Char → List Json → Prop
  | last {s g : List Char} {v : Json} (item : V s v) (gap : IsGap g) : SpellsItems (s ++ g) [v]
  | more {s g g' s' : List Char} {v : Json} {vs : List Json} (item : V s v) (gap : IsGap g)
    (gap' : IsGap g') (others : SpellsItems s' vs) :
    SpellsItems (s ++ (g ++ ',' :: (g' ++ s'))) (v :: vs)

/-- The texts of arrays whose items are spelled as `V` says. -/
inductive Spelling.array : Spelling
  | empty {g : List Char} (gap : IsGap g) : array ('[' :: (g ++ [']'])) (.arr [])
  | items {g s : List Char} {vs : List Json} (gap : IsGap g) (h : SpellsItems V s vs) :
    array ('[' :: (g ++ (s ++ [']']))) (.arr vs)

end

/-- The texts of values with no more than `depth` arrays and objects inside each other. -/
def Spelling.value : (depth : Nat) → Spelling
  | 0 => Spelling.scalar
  | depth + 1 => fun s v =>
    Spelling.scalar s v ∨ Spelling.array (Spelling.value depth) s v
      ∨ Spelling.object (Spelling.value depth) s v

section

variable {V : Spelling} {item : List Char → Step Json} {s : List Char}

theorem SpellsItems.exists_append {vs : List Json} (h : SpellsItems V s vs) :
    ∃ v s' rest, s = s' ++ rest ∧ V s' v := by
  cases h with
  | last hitem => exact ⟨_, _, _, rfl, hitem⟩
  | more hitem => exact ⟨_, _, _, rfl, hitem⟩

theorem SpellsItems.skipGap_append (hV : V.IsReadBy item) {vs : List Json}
    (h : SpellsItems V s vs) (rest : List Char) : skipGap (s ++ rest) = s ++ rest := by
  obtain ⟨v, s', behind, rfl, hv⟩ := h.exists_append
  rw [List.append_assoc]
  exact hV.skipGap_append hv _

theorem SpellsItems.length_le (hV : V.IsReadBy item) {vs : List Json} (h : SpellsItems V s vs) :
    vs.length ≤ s.length := by
  induction h with
  | last hitem =>
    obtain ⟨c, t, rfl, -⟩ := hV.head hitem
    simp
  | more hitem hgap hgap' hothers ih =>
    simp only [List.length_append, List.length_cons]
    omega

/-- The items are read one by one; behind each stands a comma or the bracket, and gaps. -/
theorem items_spelled (hV : V.IsReadBy item) {vs : List Json} (h : SpellsItems V s vs)
    (rest : List Char) (done : List Json) {rounds : Nat} (hrounds : vs.length ≤ rounds) :
    items item rounds done (s ++ ']' :: rest) = .ok (done.reverse ++ vs, rest) := by
  have hclose : IsBehind (']' :: rest) := isBehind_cons (by decide) rest
  induction h generalizing done rounds with
  | @last s g v hitem hgap =>
    obtain ⟨rounds, rfl⟩ := Nat.exists_eq_add_of_le' hrounds
    have hbracket : skipGap (g ++ ']' :: rest) = ']' :: rest := by
      rw [skipGap_append hgap, skipGap_cons (by decide)]
    rw [List.append_assoc]
    exact items_last _ done (hV.read hitem (hclose.gap_append hgap)) hbracket
  | @more s g g' s' v vs hitem hgap hgap' hothers ih =>
    obtain ⟨rounds, rfl⟩ : ∃ n, rounds = n + 1 :=
      Nat.exists_eq_succ_of_ne_zero (by simp only [List.length_cons] at hrounds; omega)
    have hmore : IsBehind (',' :: (g' ++ (s' ++ ']' :: rest))) := isBehind_cons (by decide) _
    have hcomma : skipGap (g ++ ',' :: (g' ++ (s' ++ ']' :: rest))) =
        ',' :: (g' ++ (s' ++ ']' :: rest)) := by
      rw [skipGap_append hgap, skipGap_cons (by decide)]
    simp only [List.append_assoc, List.cons_append]
    rw [items_next rounds done (hV.read hitem (hmore.gap_append hgap)) hcomma,
      skipGap_append hgap', hothers.skipGap_append hV, ih _ (Nat.le_of_succ_le_succ hrounds),
      List.reverse_cons, List.append_assoc, List.singleton_append]

/-- An array is read from any of its texts, one level further in than its items. -/
theorem Spelling.array_isReadBy {depth : Nat} (hV : V.IsReadBy (Json.value false depth)) :
    (Spelling.array V).IsReadBy (Json.value false (depth + 1)) where
  head := by
    rintro s v (_ | _) <;> exact ⟨'[', _, rfl, by decide, by decide, by decide⟩
  read := by
    rintro s v (⟨hgap⟩ | ⟨hgap, h⟩) rest -
    · simp only [List.cons_append, List.append_assoc, List.nil_append]
      rw [Json.value, skipGap_append hgap, skipGap_cons (by decide)]
      rfl
    · rename_i g s vs
      have hlength : vs.length ≤ (s ++ ']' :: rest).length + 1 := by
        have := h.length_le hV
        simp only [List.length_append]
        omega
      simp only [List.cons_append, List.append_assoc, List.nil_append]
      rw [Json.value, skipGap_append hgap, h.skipGap_append hV]
      split
      · -- an item does not begin with the bracket
        obtain ⟨v, s', behind, rfl, hv⟩ := h.exists_append
        obtain ⟨c, t, rfl, -, hc, -⟩ := hV.head hv
        rename_i hbracket
        exact absurd (List.cons.inj hbracket).1 hc
      · rw [items_spelled hV h rest [] hlength]
        rfl

/-- Values are read by a reader that follows them to their depth. -/
theorem Spelling.value_isReadBy (depth : Nat) :
    (Spelling.value depth).IsReadBy (Json.value false depth) := by
  induction depth with
  | zero => exact Spelling.scalar_isReadBy 0
  | succ depth ih =>
    have hscalar := Spelling.scalar_isReadBy (depth + 1)
    have harray := Spelling.array_isReadBy ih
    have hobject := Spelling.object_isReadBy ih
    constructor
    · rintro s v (h | h | h)
      · exact hscalar.head h
      · exact harray.head h
      · exact hobject.head h
    · rintro s v (h | h | h) rest hrest
      · exact hscalar.read h hrest
      · exact harray.read h hrest
      · exact hobject.read h hrest

end

/-! ### Texts beyond the bounds -/

/-- A list inside so many others. -/
def nest : Nat → Json
  | 0 => .arr []
  | n + 1 => .arr [nest n]

def nestText : Nat → List Char
  | 0 => ['[', ']']
  | n + 1 => '[' :: (nestText n ++ [']'])

theorem nestText_spelled (n : Nat) :
    Spelling.array (Spelling.value n) (nestText n) (nest n) := by
  induction n with
  | zero => exact .empty isGap_nil
  | succ n ih =>
    have hitem : Spelling.value (n + 1) (nestText n) (nest n) := .inr (.inl ih)
    have hitems := SpellsItems.last hitem isGap_nil
    rw [List.append_nil] at hitems
    exact .items isGap_nil hitems

theorem exists_nestText_eq (n : Nat) : ∃ t, nestText n = '[' :: t := by
  cases n <;> exact ⟨_, rfl⟩

/-- What an item is refused for, the array is. -/
theorem value_array_error {s : List Char} {depth : Nat} {fault : Fault} (hgap : skipGap s = s)
    (hs : ∀ c ∈ s.head?, c ≠ ']') (h : value false depth s = .error fault) :
    value false (depth + 1) ('[' :: s) = .error fault := by
  rw [value, hgap]
  split
  · exact absurd rfl (hs ']' rfl)
  · rw [items_of_error _ _ h]
    rfl

/-- A reader that follows no more arrays than there are around the innermost one gives up. -/
theorem value_nestText (depth n : Nat) (rest : List Char) :
    value false depth (nestText (depth + n) ++ rest) = .error (.excess .arrayNesting) := by
  induction depth generalizing rest with
  | zero => cases n <;> rfl
  | succ depth ih =>
    obtain ⟨t, ht⟩ := exists_nestText_eq (depth + n)
    have hitem := ih (']' :: rest)
    rw [Nat.succ_add, nestText, List.cons_append, List.append_assoc]
    refine value_array_error ?_ ?_ hitem
    · rw [ht]
      exact skipGap_cons (by decide) _
    · rw [ht]
      intro c hc
      rw [← Option.some.inj hc]
      decide

/-- A whole number of too many digits is refused. -/
theorem value_long {ds rest : List Char} (hds : IsDigits ds) (hzero : ds.head? ≠ some '0')
    (hlong : maxDigits < ds.length) (hrest : IsBehind rest) (depth : Nat) :
    value false depth (ds ++ rest) = .error (.excess (.digits ds.length)) := by
  obtain ⟨d, ds, rfl, hd⟩ := hds.exists_cons
  have hnumber : unsigned? false false (d :: ds ++ rest) =
      some (.error (.excess (.digits (d :: ds).length))) := by
    have hbehind : numberBehind false (d :: ds) rest = (.int (numeral (d :: ds)), rest) :=
      numberBehind_spelled false .absent .absent hrest
    rw [unsigned?, whole?_spelled hds (fun h => absurd h hzero) hrest.not_isDigit, Option.map_some]
    simp only [hbehind, isWhole, decide_eq_true hlong]
    rfl
  rw [List.cons_append] at hnumber ⊢
  rw [value_eq_scalar false depth (ne_of_isDigit hd (by decide)) (ne_of_isDigit hd (by decide)),
    scalar_of_number (ne_of_isDigit hd (by decide)) (name?_of_isDigit hd)
      ((number?_of_isDigit hd).trans hnumber)]

/-- What an array is refused for, the text is. -/
theorem readWith_array_error {depth : Nat} {s : List Char} {fault : Fault}
    (h : value false depth ('[' :: s) = .error fault) :
    readWith false depth ('[' :: s) = .error fault := by
  rw [readWith, if_neg (by simp), skipGap_cons (by decide), h]

end ClientScribe.Json
