import ClientScribe.Html.StartTag

/-!
Escaped texts.  A text is put into an attribute with its ampersands, angle brackets and quotes
replaced by references.  The references are looked at once, from left to right, so what a text has
that looks like a reference comes back as it was.
-/

namespace ClientScribe.Html

/-- A character inside the value of an attribute. -/
def escapeChar : Char → List Char
  | '&' => ['&', 'a', 'm', 'p', ';']
  | '<' => ['&', 'l', 't', ';']
  | '>' => ['&', 'g', 't', ';']
  | '"' => ['&', 'q', 'u', 'o', 't', ';']
  | '\'' => ['&', '#', 'x', '2', '7', ';']
  | c => [c]

/-- A text inside the value of an attribute. -/
def escape (s : List Char) : List Char := s.flatMap escapeChar

section

variable {c : Char} {s rest cs : List Char}

theorem escape_cons : escape (c :: s) = escapeChar c ++ escape s := List.flatMap_cons

/-! ### Reading references -/

theorem charRef?_of_ne (hc : c ≠ '&') : charRef? (c :: s) = none := by
  unfold charRef?
  split
  · exact absurd (List.cons.inj ‹_›).1 hc
  · exact absurd (List.cons.inj ‹_›).1 hc
  · rfl

theorem unescape_of_ne (hc : c ≠ '&') : unescape (c :: s) = c :: unescape s := by
  rw [unescape, Text.replaceAll, Text.segments_cons_of_none (charRef?_of_ne hc)]
  rfl

/-- A text without references stays as it is. -/
theorem unescape_of_not_mem (hs : '&' ∉ s) : unescape s = s := by
  induction s with
  | nil => rw [unescape, Text.replaceAll, Text.segments]; rfl
  | cons c s ih =>
    rw [List.mem_cons, not_or] at hs
    rw [unescape_of_ne (Ne.symm hs.1), ih hs.2]

theorem unescape_of_charRef? (h : charRef? (c :: s) = some (cs, rest))
    (hlength : rest.length ≤ s.length) : unescape (c :: s) = cs ++ unescape rest := by
  rw [unescape, Text.replaceAll, Text.segments_cons_of_some h hlength]
  rfl

/-- A name that ends in a semicolon is read as far as that. -/
theorem charRef?_named {name : List Char} (hname : ∀ c ∈ name, isNameChar c = true)
    (hne : name ≠ []) (hlength : name.length ≤ 32) (rest : List Char) :
    charRef? ('&' :: (name ++ ';' :: rest)) = some (named name true, rest) := by
  obtain ⟨d, name', rfl⟩ := List.exists_cons_of_ne_nil hne
  have hhash : d ≠ '#' := by
    rintro rfl
    exact absurd (hname '#' List.mem_cons_self) (by decide)
  have hend : ∀ c ∈ (';' :: rest).head?, isNameChar c = false := by
    intro c hc
    rw [← Option.some.inj hc]
    decide
  have hrun := (Text.dropWhile_append_of_head? hname hend).2
  have hcharRef : charRef? ('&' :: (d :: name' ++ ';' :: rest)) =
      nameRef? (d :: name' ++ ';' :: rest) := by
    rw [List.cons_append, charRef?]
    rintro t heq
    exact hhash (List.cons.inj heq).1
  rw [hcharRef, nameRef?, hrun, List.take_of_length_le hlength]
  simp

/-- A number in hexadecimal digits is read as far as its semicolon. -/
theorem charRef?_hex {ds : List Char} (hne : ds ≠ []) (hds : ∀ d ∈ ds, Text.isHex d = true)
    (rest : List Char) : charRef? ('&' :: '#' :: 'x' :: (ds ++ ';' :: rest)) =
      some (numbered (Text.hexNumber ds), rest) := by
  have hend : ∀ c ∈ (';' :: rest).head?, Text.isHex c = false := by
    intro c hc
    rw [← Option.some.inj hc]
    decide
  rw [charRef?, numberRef?, hexRef?, Text.run?_append hne hds hend]
  rfl

/-! ### Escaping and reading -/

theorem unescape_escapeChar_append (c : Char) (rest : List Char) :
    unescape (escapeChar c ++ rest) = c :: unescape rest := by
  have hname (name : List Char) (d : Char) (hname : name.all isNameChar = true)
      (hne : name ≠ []) (hlength : name.length ≤ 32) (hd : named name true = [d]) :
      unescape ('&' :: (name ++ ';' :: rest)) = d :: unescape rest := by
    have href := charRef?_named (List.all_eq_true.1 hname) hne hlength rest
    refine (unescape_of_charRef? href ?_).trans (by rw [hd, List.singleton_append])
    simp only [List.length_append, List.length_cons]
    omega
  unfold escapeChar
  split
  · exact hname ['a', 'm', 'p'] '&' (by decide) (by simp) (by decide) rfl
  · exact hname ['l', 't'] '<' (by decide) (by simp) (by decide) rfl
  · exact hname ['g', 't'] '>' (by decide) (by simp) (by decide) rfl
  · exact hname ['q', 'u', 'o', 't'] '"' (by decide) (by simp) (by decide) rfl
  · have href : charRef? ('&' :: '#' :: 'x' :: (['2', '7'] ++ ';' :: rest)) = some (['\''], rest) :=
      charRef?_hex (by simp) (List.all_eq_true.1 (by decide)) rest
    refine unescape_of_charRef? href ?_
    simp only [List.length_append, List.length_cons]
    omega
  · rename_i hand hless hgreater hdouble hsingle
    exact unescape_of_ne hand

/-- Reading undoes escaping, whatever the text looks like. -/
theorem unescape_escape (s : List Char) : unescape (escape s) = s := by
  induction s with
  | nil => exact unescape_of_not_mem List.not_mem_nil
  | cons c s ih => rw [escape_cons, unescape_escapeChar_append, ih]

/-- No quotes are left. -/
theorem isQuote_of_mem_escape (h : c ∈ escape s) : isQuote c = false := by
  have hnone {cs : List Char} (hcs : cs.any isQuote = false) (hc : c ∈ cs) : isQuote c = false := by
    simpa using List.any_eq_false.1 hcs c hc
  obtain ⟨d, -, hc⟩ := List.mem_flatMap.1 h
  unfold escapeChar at hc
  split at hc
  iterate 5
    · exact hnone (by decide) hc
  · rename_i hand hless hgreater hdouble hsingle
    obtain rfl := List.mem_singleton.1 hc
    rw [isQuote, Bool.or_eq_false_iff, decide_eq_false_iff_not, decide_eq_false_iff_not]
    exact ⟨hsingle, hdouble⟩

/-! ### References of too many digits -/

/-- No such reference begins where no digits stand behind `&#`. -/
theorem longRef?_cons (h : ∀ t, c :: s = '&' :: '#' :: t → ∀ d ∈ t.head?, d.isDigit = false) :
    longRef? (c :: s) = longRef? s := by
  rw [longRef?, Text.search]
  cases hstrip : Text.strip? ['&', '#'] (c :: s) with
  | none => rfl
  | some t =>
    have hrun : Text.run? Char.isDigit t = none := by
      have hhead := h t (Text.eq_append_of_strip? hstrip)
      cases t with
      | nil => rfl
      | cons d t => rw [Text.run?, List.takeWhile_cons_of_neg (by simp [hhead d rfl])]
    simp only [Option.bind_eq_bind, Option.bind_some, hrun, Option.bind_none]
    rfl

theorem longRef?_escapeChar_append (c : Char) (rest : List Char) :
    longRef? (escapeChar c ++ rest) = longRef? rest := by
  unfold escapeChar
  split
  iterate 5
    · simp [longRef?_cons]
  · rename_i hand hless hgreater hdouble hsingle
    exact longRef?_cons fun t ht => absurd (List.cons.inj ht).1 hand

theorem longRef?_escape (s : List Char) : longRef? (escape s) = none := by
  induction s with
  | nil => rfl
  | cons c s ih => rw [escape_cons, longRef?_escapeChar_append, ih]

end

end ClientScribe.Html
