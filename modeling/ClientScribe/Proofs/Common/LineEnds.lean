import ClientScribe.Proofs.Common.Grammar

/-!
How the lines of a common text end makes no difference: with other line ends it is a common text of
the same value.  All its characters may stand in a document.
-/

namespace ClientScribe.Common

open Json (Spelling IsDigits IsUnit letters)
open Text (hexValue? unifyLineEnds)

/-! ### Line ends -/

theorem unifyLineEnds_cons {c : Char} (hc : c ≠ '\r') (s : List Char) :
    unifyLineEnds (c :: s) = c :: unifyLineEnds s := by
  rw [unifyLineEnds, if_neg hc]
  rintro rest rfl
  exact absurd rfl hc

/-- A text that does not end in a carriage return, or is not followed by a line feed, may be taken
apart. -/
theorem unifyLineEnds_append {s t : List Char}
    (h : (∀ c ∈ s.getLast?, c ≠ '\r') ∨ ∀ c ∈ t.head?, c ≠ '\n') :
    unifyLineEnds (s ++ t) = unifyLineEnds s ++ unifyLineEnds t := by
  fun_induction unifyLineEnds s with
  | case1 s ih =>
    rw [List.cons_append, List.cons_append, unifyLineEnds, ih, List.cons_append]
    refine h.imp (fun h c hc => h c ?_) id
    rw [List.getLast?_cons, List.getLast?_cons]
    rw [Option.mem_def.1 hc]
    rfl
  | case2 c s hne ih =>
    have hrest : unifyLineEnds (s ++ t) = unifyLineEnds s ++ unifyLineEnds t := by
      refine ih (h.imp (fun h d hd => h d ?_) id)
      rw [List.getLast?_cons, Option.mem_def.1 hd]
      rfl
    rw [List.cons_append, unifyLineEnds, hrest, List.cons_append]
    rintro rest rfl heq
    cases s with
    | cons d s => exact hne s rfl (congrArg (· :: s) (List.cons.inj heq).1)
    | nil =>
      rcases h with h | h
      · exact h '\r' rfl rfl
      · rw [List.nil_append] at heq
        exact h '\n' (heq ▸ rfl) rfl
  | case3 => rfl

theorem not_mem_unifyLineEnds (s : List Char) : '\r' ∉ unifyLineEnds s := by
  fun_induction unifyLineEnds s with
  | case1 s ih => simp [ih]
  | case2 c s _ ih =>
    rw [List.mem_cons, not_or]
    refine ⟨?_, ih⟩
    split
    · decide
    · exact fun h => ‹¬c = '\r'› h.symm
  | case3 => simp

theorem IsGap.unified {g : List Char} (h : IsGap g) : IsGap (unifyLineEnds g) := by
  fun_induction unifyLineEnds g with
  | case1 s ih =>
    rw [IsGap, List.forall_mem_cons, List.forall_mem_cons] at h
    exact List.forall_mem_cons.2 ⟨rfl, ih h.2.2⟩
  | case2 c s _ ih =>
    rw [IsGap, List.forall_mem_cons] at h
    refine List.forall_mem_cons.2 ⟨?_, ih h.2⟩
    split
    · rfl
    · exact h.1
  | case3 => exact h

/-! ### Values that hold no others -/

/-- A character that may stand in a document and ends no line. -/
structure IsFirm (c : Char) : Prop where
  allowed : Yaml.isAllowed c = true
  unbroken : Yaml.isBreak c = false
  visible : 0x20 ≤ c.toNat

theorem isFirm_of_range {c : Char} (h : 0x20 ≤ c.toNat ∧ c.toNat ≤ 0x7E) : IsFirm c where
  allowed := by simp [Yaml.isAllowed, h]
  unbroken := by
    have hne {d : Char} (hd : d.toNat < 0x20 ∨ 0x7E < d.toNat) : c ≠ d := by
      rintro rfl
      omega
    simp [Yaml.isBreak, hne (d := '\n') (by decide), hne (d := '\x85') (by decide),
      hne (d := '\u2028') (by decide), hne (d := '\u2029') (by decide)]
  visible := h.1

theorem isFirm_of_isDigit {c : Char} (h : c.isDigit = true) : IsFirm c := by
  rw [Char.isDigit, Bool.and_eq_true, decide_eq_true_eq, decide_eq_true_eq] at h
  have hlo : 0x30 ≤ c.toNat := h.1
  have hhi : c.toNat ≤ 0x39 := h.2
  exact isFirm_of_range ⟨by omega, by omega⟩

theorem isFirm_of_hexValue? {c : Char} {n : Nat} (h : hexValue? c = some n) : IsFirm c := by
  have hrange {lo hi : Char} (hc : (lo ≤ c && c ≤ hi) = true) (hlo : 0x20 ≤ lo.toNat)
      (hhi : hi.toNat ≤ 0x7E) : IsFirm c := by
    rw [Bool.and_eq_true, decide_eq_true_eq, decide_eq_true_eq] at hc
    exact isFirm_of_range ⟨Nat.le_trans hlo hc.1, Nat.le_trans hc.2 hhi⟩
  rw [hexValue?] at h
  split at h
  · exact hrange ‹_› (by decide) (by decide)
  · split at h
    · exact hrange ‹_› (by decide) (by decide)
    · split at h
      · exact hrange ‹_› (by decide) (by decide)
      · cases h

theorem isFirm_of_isUnit {e : List Char} {n : Nat} (h : IsUnit e n) : ∀ c ∈ e, IsFirm c := by
  obtain ⟨x, y, z, w, rfl, hn⟩ := h
  simp only [Json.codeUnit?, Option.bind_eq_bind, Option.bind_eq_some_iff] at hn
  obtain ⟨i, hx, j, hy, k, hz, l, hw, -⟩ := hn
  simp only [List.forall_mem_cons]
  exact ⟨isFirm_of_range (by decide), isFirm_of_range (by decide), isFirm_of_hexValue? hx,
    isFirm_of_hexValue? hy, isFirm_of_hexValue? hz, isFirm_of_hexValue? hw, List.forall_mem_nil _⟩

theorem isFirm_of_spells {s t : List Char} (h : Spells s t) : ∀ c ∈ s, IsFirm c := by
  induction h with
  | nil => exact List.forall_mem_nil _
  | plain hc _ ih =>
    obtain ⟨hallowed, hbreak, hcontrol, -⟩ := of_isPlain hc
    exact List.forall_mem_cons.2 ⟨⟨hallowed, hbreak, hcontrol⟩, ih⟩
  | @letter l c s t hl _ ih =>
    have hall : ∀ x ∈ letters, 0x20 ≤ x.1.toNat ∧ x.1.toNat ≤ 0x7E := by decide
    exact List.forall_mem_cons.2 ⟨isFirm_of_range (by decide),
      List.forall_mem_cons.2 ⟨isFirm_of_range (hall _ hl), ih⟩⟩
  | unit he _ ih => exact List.forall_mem_append.2 ⟨isFirm_of_isUnit he, ih⟩
  | half he _ _ _ ih => exact List.forall_mem_append.2 ⟨isFirm_of_isUnit he, ih⟩

theorem isFirm_of_string {s : List Char} {v : Json} (h : string s v) : ∀ c ∈ s, IsFirm c := by
  obtain ⟨inner, t, rfl, -, hspells⟩ := h
  have hquote : IsFirm '"' := isFirm_of_range (by decide)
  exact List.forall_mem_cons.2 ⟨hquote, List.forall_mem_append.2 ⟨isFirm_of_spells hspells,
    List.forall_mem_singleton.2 hquote⟩⟩

theorem isFirm_of_exponent {x : List Char} {e : Option Int} (h : SpellsExponent x e) :
    ∀ c ∈ x, IsFirm c := by
  have hmarked {mark sign : Char} {ds : List Char} (hmark : mark = 'e' ∨ mark = 'E')
      (hsign : IsFirm sign) (hds : IsDigits ds) : ∀ c ∈ mark :: sign :: ds, IsFirm c := by
    refine List.forall_mem_cons.2 ⟨?_, List.forall_mem_cons.2 ⟨hsign, fun c hc => ?_⟩⟩
    · rcases hmark with rfl | rfl <;> exact isFirm_of_range (by decide)
    · exact isFirm_of_isDigit (hds.2 c hc)
  cases h with
  | absent => exact List.forall_mem_nil _
  | plus hmark hds => exact hmarked hmark (isFirm_of_range (by decide)) hds
  | minus hmark hds => exact hmarked hmark (isFirm_of_range (by decide)) hds

theorem isFirm_of_unsigned {negative : Bool} {s : List Char} {v : Json}
    (h : SpellsUnsigned negative s v) : ∀ c ∈ s, IsFirm c := by
  have hdigits {ds : List Char} (hds : IsDigits ds) : ∀ c ∈ ds, IsFirm c := fun c hc =>
    isFirm_of_isDigit (hds.2 c hc)
  cases h with
  | whole hds => exact hdigits hds
  | fraction hds _ hfs hx =>
    exact List.forall_mem_append.2 ⟨hdigits hds, List.forall_mem_cons.2
      ⟨isFirm_of_range (by decide), List.forall_mem_append.2 ⟨hdigits hfs, isFirm_of_exponent hx⟩⟩⟩

theorem isFirm_of_scalar {s : List Char} {v : Json} (h : scalar s v) : ∀ c ∈ s, IsFirm c := by
  cases h with
  | name h =>
    have hall : (names.all fun x => x.1.all fun c => 0x20 ≤ c.toNat ∧ c.toNat ≤ 0x7E) = true := rfl
    have hname := List.all_eq_true.1 hall _ h
    exact fun c hc => isFirm_of_range (of_decide_eq_true (List.all_eq_true.1 hname c hc))
  | number h =>
    cases h with
    | positive h => exact isFirm_of_unsigned h
    | negative h => exact List.forall_mem_cons.2 ⟨isFirm_of_range (by decide), isFirm_of_unsigned h⟩
  | string h => exact isFirm_of_string h

/-! ### All values -/

theorem unifyLineEnds_of_isFirm {s : List Char} (h : ∀ c ∈ s, IsFirm c) : unifyLineEnds s = s :=
  Text.unifyLineEnds_of_not_mem fun hmem => absurd (h _ hmem).visible (by decide)

theorem isAllowed_of_isGap {g : List Char} (h : IsGap g) : ∀ c ∈ g, Yaml.isAllowed c = true := by
  intro c hc
  rcases of_isGap (h c hc) with rfl | rfl | rfl <;> rfl

/-- Texts that are spelled so may stand in a document, whatever their line ends. -/
structure IsSound {α : Type} (P : List Char → α → Prop) : Prop where
  allowed {s : List Char} {a : α} (h : P s a) : ∀ c ∈ s, Yaml.isAllowed c = true
  head {s : List Char} {a : α} (h : P s a) : ∃ c t, s = c :: t ∧ c ≠ '\n'
  last {s : List Char} {a : α} (h : P s a) : ∀ c ∈ s.getLast?, c ≠ '\r'
  unified {s : List Char} {a : α} (h : P s a) : P (unifyLineEnds s) a

theorem scalar_isSound : IsSound scalar where
  allowed h c hc := (isFirm_of_scalar h c hc).allowed
  head h := by
    obtain ⟨c, t, hs, hgap, -⟩ := (Spelling.scalar_isReadBy 0).head (scalar_json h)
    refine ⟨c, t, hs, ?_⟩
    rintro rfl
    cases hgap
  last h c hc := by
    rintro rfl
    exact absurd (isFirm_of_scalar h _ (List.mem_of_getLast? hc)).visible (by decide)
  unified h := by rwa [unifyLineEnds_of_isFirm (isFirm_of_scalar h)]

/-- A text in front of one that does not begin with a line feed is taken apart from it. -/
theorem unifyLineEnds_before {t : List Char} (h : ∃ c rest, t = c :: rest ∧ c ≠ '\n')
    (s : List Char) : unifyLineEnds (s ++ t) = unifyLineEnds s ++ unifyLineEnds t := by
  obtain ⟨c, rest, rfl, hc⟩ := h
  exact unifyLineEnds_append (.inr fun d hd => Option.some.inj hd ▸ hc)

/-- A text in front of a sign is taken apart from it. -/
theorem unifyLineEnds_sign {c : Char} (hc : c ≠ '\n' ∧ c ≠ '\r') (s t : List Char) :
    unifyLineEnds (s ++ c :: t) = unifyLineEnds s ++ c :: unifyLineEnds t := by
  rw [unifyLineEnds_before ⟨c, t, rfl, hc.1⟩, unifyLineEnds_cons hc.2]

section

variable {α : Type} {P : List Char → α → Prop} (hP : IsSound P) {s : List Char} {as : List α}

include hP

theorem Parts.head (h : Parts P s as) : ∃ c t, s = c :: t ∧ c ≠ '\n' := by
  cases h with
  | last hpart =>
    obtain ⟨c, t, rfl, hc⟩ := hP.head hpart
    exact ⟨c, _, rfl, hc⟩
  | more hpart =>
    obtain ⟨c, t, rfl, hc⟩ := hP.head hpart
    exact ⟨c, _, rfl, hc⟩

theorem Parts.allowed (h : Parts P s as) : ∀ c ∈ s, Yaml.isAllowed c = true := by
  induction h with
  | last hpart hgap =>
    exact List.forall_mem_append.2 ⟨hP.allowed hpart, isAllowed_of_isGap hgap⟩
  | more hpart hgap hgap' _ ih =>
    simp only [List.forall_mem_append, List.forall_mem_cons]
    exact ⟨hP.allowed hpart, isAllowed_of_isGap hgap, rfl, isAllowed_of_isGap hgap', ih⟩

theorem Parts.unified (h : Parts P s as) : Parts P (unifyLineEnds s) as := by
  induction h with
  | last hpart hgap =>
    rw [unifyLineEnds_append (.inl (hP.last hpart))]
    exact .last (hP.unified hpart) hgap.unified
  | more hpart hgap hgap' hothers ih =>
    rw [unifyLineEnds_append (.inl (hP.last hpart)), unifyLineEnds_sign (by decide),
      unifyLineEnds_before (hothers.head hP)]
    exact .more (hP.unified hpart) hgap.unified hgap'.unified ih

theorem bracketed_isSound {opening closing : Char} (hopening : IsFirm opening)
    (hclosing : IsFirm closing) : IsSound (Bracketed P opening closing) := by
  have hsign {c : Char} (hc : IsFirm c) : c ≠ '\n' ∧ c ≠ '\r' :=
    ⟨fun h => absurd (h ▸ hc.visible) (by decide), fun h => absurd (h ▸ hc.visible) (by decide)⟩
  constructor
  · rintro s as (⟨hgap⟩ | ⟨hgap, h⟩)
    · simp only [List.forall_mem_append, List.forall_mem_cons]
      exact ⟨hopening.allowed, isAllowed_of_isGap hgap, hclosing.allowed, List.forall_mem_nil _⟩
    · simp only [List.forall_mem_append, List.forall_mem_cons]
      exact ⟨hopening.allowed, isAllowed_of_isGap hgap, h.allowed hP, hclosing.allowed,
        List.forall_mem_nil _⟩
  · rintro s as (_ | _) <;> exact ⟨opening, _, rfl, (hsign hopening).1⟩
  · rintro s as (_ | _) c hc
    · rw [← List.cons_append, List.getLast?_concat] at hc
      exact Option.some.inj hc ▸ (hsign hclosing).2
    · rw [← List.append_assoc, ← List.cons_append, List.getLast?_concat] at hc
      exact Option.some.inj hc ▸ (hsign hclosing).2
  · rintro s as (⟨hgap⟩ | ⟨hgap, h⟩)
    · rw [unifyLineEnds_cons (hsign hopening).2, unifyLineEnds_sign (hsign hclosing)]
      exact .empty hgap.unified
    · rw [unifyLineEnds_cons (hsign hopening).2, ← List.append_assoc,
        unifyLineEnds_sign (hsign hclosing), unifyLineEnds_before (h.head hP), List.append_assoc]
      exact .parts hgap.unified (h.unified hP)

end

section

variable {V : Spelling} (hV : IsSound V)

include hV

theorem member_isSound : IsSound (SpellsMember V) where
  allowed := by
    rintro s m ⟨hkey, hblanks, hnear, hgap, hvalue⟩
    simp only [List.forall_mem_append, List.forall_mem_cons]
    exact ⟨fun c hc => (isFirm_of_string hkey c hc).allowed,
      isAllowed_of_isGap (isGap_of_spaces hblanks), rfl, isAllowed_of_isGap hgap, hV.allowed hvalue⟩
  head := by
    rintro s m ⟨⟨inner, t, rfl, -⟩, -⟩
    exact ⟨'"', _, rfl, by decide⟩
  last := by
    rintro s m ⟨hkey, hblanks, hnear, hgap, hvalue⟩
    rename_i k g g' s name v
    have hsplit : k ++ (g ++ ':' :: (g' ++ s)) = (k ++ (g ++ ':' :: g')) ++ s := by simp
    obtain ⟨c, t, hs, -⟩ := hV.head hvalue
    have hlast : s.getLast?.isSome = true := by
      rw [List.getLast?_isSome, hs]
      exact List.cons_ne_nil c t
    rw [hsplit, List.getLast?_append, Option.or_of_isSome hlast]
    exact hV.last hvalue
  unified := by
    rintro s m ⟨hkey, hblanks, hnear, hgap, hvalue⟩
    have hfirm := isFirm_of_string hkey
    have hspaces := unifyLineEnds_of_isFirm fun c hc => isFirm_of_range (c := c) (by
      rw [hblanks c hc]
      decide)
    rw [unifyLineEnds_append (.inl fun c hc => ?_), unifyLineEnds_sign (by decide),
      unifyLineEnds_before (hV.head hvalue), unifyLineEnds_of_isFirm hfirm, hspaces]
    · exact .mk hkey hblanks hnear hgap.unified (hV.unified hvalue)
    · rintro rfl
      exact absurd (hfirm _ (List.mem_of_getLast? hc)).visible (by decide)

theorem array_isSound : IsSound (array V) := by
  have hparts := bracketed_isSound hV (isFirm_of_range (c := '[') (by decide))
    (isFirm_of_range (c := ']') (by decide))
  constructor
  · rintro s v ⟨h⟩
    exact hparts.allowed h
  · rintro s v ⟨h⟩
    exact hparts.head h
  · rintro s v ⟨h⟩
    exact hparts.last h
  · rintro s v ⟨h⟩
    exact .mk (hparts.unified h)

theorem object_isSound : IsSound (object V) := by
  have hparts := bracketed_isSound (member_isSound hV) (isFirm_of_range (c := '{') (by decide))
    (isFirm_of_range (c := '}') (by decide))
  constructor
  · rintro s v ⟨h⟩
    exact hparts.allowed h
  · rintro s v ⟨h⟩
    exact hparts.head h
  · rintro s v ⟨h⟩
    exact hparts.last h
  · rintro s v ⟨h⟩
    exact .mk (hparts.unified h)

end

theorem value_isSound (depth : Nat) : IsSound (value depth) := by
  induction depth with
  | zero => exact ⟨fun h => h.elim, fun h => h.elim, fun h => h.elim, fun h => h.elim⟩
  | succ depth ih =>
    have hscalar := scalar_isSound
    have harray := array_isSound ih
    have hobject := object_isSound ih
    constructor
    · rintro s v (h | h | h)
      · exact hscalar.allowed h
      · exact harray.allowed h
      · exact hobject.allowed h
    · rintro s v (h | h | h)
      · exact hscalar.head h
      · exact harray.head h
      · exact hobject.head h
    · rintro s v (h | h | h)
      · exact hscalar.last h
      · exact harray.last h
      · exact hobject.last h
    · rintro s v (h | h | h)
      · exact .inl (hscalar.unified h)
      · exact .inr (.inl (harray.unified h))
      · exact .inr (.inr (hobject.unified h))

/-- A whole text may stand in a document, and is a text of the same value once its lines end in line
feeds. -/
theorem alone_unified {depth : Nat} {s : List Char} {v : Json} (h : alone (value depth) s v) :
    alone (value depth) (unifyLineEnds s) v := by
  have hV := value_isSound depth
  cases h with
  | mk hgap hvalue hgap' =>
    obtain ⟨c, t, hs, hc⟩ := hV.head hvalue
    rw [unifyLineEnds_before ⟨c, _, by rw [hs]; rfl, hc⟩,
      unifyLineEnds_append (.inl (hV.last hvalue))]
    exact .mk hgap.unified (hV.unified hvalue) hgap'.unified

theorem isAllowed_of_alone {depth : Nat} {s : List Char} {v : Json} (h : alone (value depth) s v) :
    ∀ c ∈ s, Yaml.isAllowed c = true := by
  cases h with
  | mk hgap hvalue hgap' =>
    simp only [List.forall_mem_append]
    exact ⟨isAllowed_of_isGap hgap, (value_isSound depth).allowed hvalue, isAllowed_of_isGap hgap'⟩

end ClientScribe.Common
