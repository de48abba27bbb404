import ClientScribe.Proofs.Json.Spelling
import ClientScribe.Proofs.Text.Occurrence

/-!
What occurs in the text of a value.  Between its strings a text holds only braces, colons, commas
and gaps, so most of what can be searched for in it is found in a string or nowhere.
-/

namespace ClientScribe.Json

open Text (hexValue?)

/-- A string is a key of an object in a value, or a string in it. -/
inductive Mentions (t : String) : Json → Prop
  | string : Mentions t (.str t)
  | key {ms : Members} {v : Json} (hmem : (t, v) ∈ ms) : Mentions t (.obj ms)
  | member {ms : Members} {m : String × Json} (hmem : m ∈ ms) (h : Mentions t m.2) :
    Mentions t (.obj ms)

/-- A text can stand in strings only, and only unescaped: it holds no quote and no backslash, and
its first character stands neither between strings nor in an escape. -/
structure IsForeign (c : Char) (t : List Char) : Prop where
  gap : isGap c = false
  mark : c ∉ ['{', '}', ':', ',']
  code : c ≠ 'u' ∧ hexValue? c = none
  letter : ∀ x ∈ letters, c ≠ x.1
  quote : '"' ∉ c :: t
  backslash : '\\' ∉ c :: t

/-- Where a text occurs in what is spelled, it occurs in a key or a string, or behind it. -/
def Spelling.Shows (V : Spelling) (needle : List Char) : Prop :=
  ∀ s v, V s v → ∀ rest, needle <:+: s ++ rest →
    (∃ t, v.Mentions t ∧ needle <:+: t.toList) ∨ needle <:+: rest

section

variable {c : Char} {t s : List Char}

theorem IsForeign.ne_backslash (hn : IsForeign c t) : c ≠ '\\' :=
  fun h => hn.backslash (List.mem_cons.2 (.inl h.symm))

theorem IsForeign.ne_quote (hn : IsForeign c t) : c ≠ '"' :=
  fun h => hn.quote (List.mem_cons.2 (.inl h.symm))

theorem IsForeign.not_mem_isUnit (hn : IsForeign c t) {e : List Char} {n : Nat}
    (he : IsUnit e n) : c ∉ e := by
  obtain ⟨a, b, d, f, rfl, hcode⟩ := he
  simp only [codeUnit?, Option.bind_eq_bind, Option.bind_eq_some_iff] at hcode
  obtain ⟨i, ha, j, hb, k, hd, l, hf, -⟩ := hcode
  have hdigit {x : Char} {m : Nat} (hx : hexValue? x = some m) : c ≠ x := by
    rintro rfl
    exact absurd (hn.code.2.symm.trans hx) (by simp)
  simp only [List.mem_cons, not_or]
  exact ⟨hn.ne_backslash, hn.code.1, hdigit ha, hdigit hb, hdigit hd, hdigit hf, List.not_mem_nil⟩

theorem IsForeign.behind_gap (hn : IsForeign c t) {g rest : List Char} (hg : IsGap g)
    (hneedle : (c :: t) <:+: g ++ rest) : (c :: t) <:+: rest := by
  refine Text.infix_of_infix_append ?_ hneedle
  intro hmem
  exact absurd (hn.gap.symm.trans (hg c hmem)) (by simp)

/-- Behind a mark and the gaps around it. -/
theorem IsForeign.behind_mark (hn : IsForeign c t) {g g' rest : List Char} {mark : Char}
    (hmark : mark ∈ ['{', '}', ':', ',']) (hg : IsGap g) (hg' : IsGap g')
    (hneedle : (c :: t) <:+: g ++ mark :: (g' ++ rest)) : (c :: t) <:+: rest := by
  have hfront : (c :: t) <:+: [mark] ++ (g' ++ rest) := hn.behind_gap hg hneedle
  refine hn.behind_gap hg' (Text.infix_of_infix_append ?_ hfront)
  rw [List.mem_singleton]
  rintro rfl
  exact hn.mark hmark

/-- What starts the text of a string and holds no backslash starts the string. -/
theorem Spells.prefix_of_spelled {text needle : List Char} (h : Spells s text)
    (hbackslash : '\\' ∉ needle) (hneedle : needle <+: s) : needle <+: text := by
  have hescape {rest needle text : List Char} (hbackslash : '\\' ∉ needle)
      (hneedle : needle <+: '\\' :: rest) : needle <+: text := by
    cases needle with
    | nil => exact List.nil_prefix
    | cons x needle =>
      obtain rfl := (List.cons_prefix_cons.1 hneedle).1
      exact absurd List.mem_cons_self hbackslash
  have hunit {e rest needle text : List Char} {n : Nat} (he : IsUnit e n)
      (hbackslash : '\\' ∉ needle) (hneedle : needle <+: e ++ rest) : needle <+: text := by
    obtain ⟨a, b, d, f, rfl, -⟩ := he
    exact hescape hbackslash hneedle
  induction h generalizing needle with
  | nil => exact hneedle
  | plain hq hb hc hrest ih =>
    cases needle with
    | nil => exact List.nil_prefix
    | cons x needle =>
      rw [List.mem_cons, not_or] at hbackslash
      obtain ⟨hx, hneedle⟩ := List.cons_prefix_cons.1 hneedle
      exact List.cons_prefix_cons.2 ⟨hx, ih hbackslash.2 hneedle⟩
  | letter hl hrest ih => exact hescape hbackslash hneedle
  | unit he hrest ih => exact hunit he hbackslash hneedle
  | pair hfirst hhigh hsecond hlow hrest ih => exact hunit hfirst hbackslash hneedle
  | half he hsurrogate halone hrest ih => exact hunit he hbackslash hneedle

theorem Spells.infix_of_infix {text : List Char} (hn : IsForeign c t) (h : Spells s text)
    (hneedle : (c :: t) <:+: s) : (c :: t) <:+: text := by
  induction h with
  | nil => exact hneedle
  | @plain d s text hq hb hc hrest ih =>
    rcases List.infix_cons_iff.1 hneedle with hprefix | hinfix
    · exact ((Spells.plain hq hb hc hrest).prefix_of_spelled hn.backslash hprefix).isInfix
    · exact List.infix_cons (ih hinfix)
  | @letter l d s text hl hrest ih =>
    have hfront : c ∉ ['\\', l] := by
      simp only [List.mem_cons, not_or]
      exact ⟨hn.ne_backslash, hn.letter (l, d) hl, List.not_mem_nil⟩
    exact List.infix_cons (ih (Text.infix_of_infix_append hfront hneedle))
  | unit he hrest ih =>
    exact List.infix_cons (ih (Text.infix_of_infix_append (hn.not_mem_isUnit he) hneedle))
  | pair hfirst hhigh hsecond hlow hrest ih =>
    exact List.infix_cons (ih (Text.infix_of_infix_append (hn.not_mem_isUnit hsecond)
      (Text.infix_of_infix_append (hn.not_mem_isUnit hfirst) hneedle)))
  | half he hsurrogate halone hrest ih =>
    exact List.infix_cons (ih (Text.infix_of_infix_append (hn.not_mem_isUnit he) hneedle))

theorem Spelling.string_shows (hn : IsForeign c t) : Spelling.string.Shows (c :: t) := by
  rintro s v ⟨inner, text, rfl, rfl, h⟩ rest hneedle
  have hfront : c ∉ ['"'] := fun hmem => hn.ne_quote (List.mem_singleton.1 hmem)
  rw [List.cons_append, List.append_assoc] at hneedle
  rcases Text.infix_or_infix hn.quote (Text.infix_of_infix_append hfront hneedle) with hin | hrest
  · exact .inl ⟨text, .string, h.infix_of_infix hn hin⟩
  · exact .inr hrest

variable {V : Spelling}

theorem SpellsMember.shows (hn : IsForeign c t) (hV : V.Shows (c :: t)) {m : String × Json}
    (h : SpellsMember V s m) (ms : Members) {rest : List Char}
    (hneedle : (c :: t) <:+: s ++ rest) :
    (∃ x, (Json.obj (m :: ms)).Mentions x ∧ (c :: t) <:+: x.toList) ∨ (c :: t) <:+: rest := by
  obtain ⟨k, g, g', v, rfl, hk, hg, hg', hv⟩ := h
  simp only [List.append_assoc, List.cons_append] at hneedle
  rcases Spelling.string_shows hn k _ hk _ hneedle with ⟨x, hx, hin⟩ | hneedle
  · cases hx
    exact .inl ⟨m.1, .key List.mem_cons_self, hin⟩
  · refine (hV v m.2 hv rest (hn.behind_mark (by decide) hg hg' hneedle)).imp_left ?_
    rintro ⟨x, hx, hin⟩
    exact ⟨x, .member List.mem_cons_self hx, hin⟩

theorem SpellsMembers.shows (hn : IsForeign c t) (hV : V.Shows (c :: t)) {ms : Members}
    (h : SpellsMembers V s ms) {rest : List Char} (hneedle : (c :: t) <:+: s ++ rest) :
    (∃ x, (Json.obj ms).Mentions x ∧ (c :: t) <:+: x.toList) ∨ (c :: t) <:+: rest := by
  induction h with
  | last hm hgap =>
    rw [List.append_assoc] at hneedle
    exact (hm.shows hn hV [] hneedle).imp_right (hn.behind_gap hgap)
  | @more s g g' s' m ms hm hgap hgap' hothers ih =>
    simp only [List.append_assoc, List.cons_append] at hneedle
    rcases hm.shows hn hV ms hneedle with hfirst | hneedle
    · exact .inl hfirst
    · refine (ih (hn.behind_mark (by decide) hgap hgap' hneedle)).imp_left ?_
      rintro ⟨x, hx, hin⟩
      refine ⟨x, ?_, hin⟩
      cases hx with
      | key hmem => exact .key (List.mem_cons_of_mem m hmem)
      | member hmem hx => exact .member (List.mem_cons_of_mem m hmem) hx

theorem Spelling.object_shows (hn : IsForeign c t) (hV : V.Shows (c :: t)) :
    (Spelling.object V).Shows (c :: t) := by
  have hclose {rest : List Char} (hneedle : (c :: t) <:+: '}' :: rest) : (c :: t) <:+: rest :=
    hn.behind_mark (by decide) isGap_nil isGap_nil hneedle
  rintro s v (⟨hgap⟩ | ⟨hgap, h, -⟩) rest hneedle
  · simp only [List.cons_append, List.append_assoc] at hneedle
    exact .inr (hclose (hn.behind_mark (by decide) isGap_nil hgap hneedle))
  · simp only [List.cons_append, List.append_assoc] at hneedle
    exact (h.shows hn hV (hn.behind_mark (by decide) isGap_nil hgap hneedle)).imp_right hclose

/-- Where a foreign text occurs in the text of a value, it occurs in a key or a string of it. -/
theorem Spelling.exists_mentions (hn : IsForeign c t) (hV : V.Shows (c :: t)) {v : Json}
    (h : V.alone s v) (hneedle : (c :: t) <:+: s) :
    ∃ x, v.Mentions x ∧ (c :: t) <:+: x.toList := by
  obtain ⟨g, inner, g', rfl, hg, hg', hv⟩ := h
  refine (hV inner v hv g' (hn.behind_gap hg hneedle)).resolve_right ?_
  intro hgap
  rw [← List.append_nil g'] at hgap
  exact absurd (List.infix_nil.1 (hn.behind_gap hg' hgap)) (List.cons_ne_nil c t)

end

end ClientScribe.Json
