import ClientScribe.Proofs.Common.Layout
import ClientScribe.Proofs.Common.Scalar

/-!
The tokens of common texts.  They are told by the values that they stand for, as the texts are; a
text is cut into tokens of its value, wherever it stands between brackets.
-/

namespace ClientScribe.Common

open Json (Spelling Members)
open Yaml (Layout Scalar Token)
open Yaml.Layout (Brackets)

/-! ### Tokens of values -/

section

variable {α : Type} (C : List Token → α → Prop) (D : List Token → Json → Prop)

/-- Parts with commas between them. -/
inductive CutParts : List Token → List α → Prop
  | last {ts : List Token} {a : α} (part : C ts a) : CutParts ts [a]
  | more {ts us : List Token} {a : α} {as : List α} (part : C ts a) (others : CutParts us as) :
    CutParts (ts ++ .comma :: us) (a :: as)

/-- Parts between brackets. -/
inductive CutBracketed (start finish : Token) : List Token → List α → Prop
  | empty : CutBracketed start finish [start, finish] []
  | parts {ts : List Token} {as : List α} (h : CutParts C ts as) :
    CutBracketed start finish (start :: (ts ++ [finish])) as

theorem CutBracketed.head {start finish : Token} {ts : List Token} {as : List α}
    (h : CutBracketed C start finish ts as) : ∃ us, ts = start :: us := by
  cases h <;> exact ⟨_, rfl⟩

/-- The tokens of lists. -/
inductive cutArray : List Token → Json → Prop
  | mk {ts : List Token} {vs : List Json}
    (h : CutBracketed D .flowSequence .flowSequenceEnd ts vs) : cutArray ts (.arr vs)

/-- The tokens of a member. -/
inductive CutMember : List Token → String × Json → Prop
  | mk {ts : List Token} {name : String} {v : Json} (value : D ts v) :
    CutMember (.key :: .scalar (.ofText name.toList) :: .value :: ts) (name, v)

/-- The tokens of objects. -/
inductive cutObject : List Token → Json → Prop
  | mk {ts : List Token} {ms : Members}
    (h : CutBracketed (CutMember D) .flowMapping .flowMappingEnd ts ms) :
    cutObject ts (.obj (Json.override [] ms))

end

/-- The tokens of values with no more than `depth` values inside each other. -/
def cut : (depth : Nat) → List Token → Json → Prop
  | 0 => fun _ _ => False
  | depth + 1 => fun ts v => (∃ s, ts = [.scalar s] ∧ s.Denotes v) ∨ cutArray (cut depth) ts v ∨
      cutObject (cut depth) ts v

/-! ### Cutting texts -/

section

variable {α : Type} {P : List Char → α → Prop} {C : List Token → α → Prop}

/-- Between brackets, texts that are spelled as `P` says are cut into tokens as `C` says, if need be
where a key may begin. -/
structure Cuts (keyed : Bool) (P : List Char → α → Prop) (C : List Token → α → Prop) : Prop where
  run {s : List Char} {a : α} (h : P s a) (hreturn : '\r' ∉ s) {g rest : List Char} (hg : IsFill g)
    (hrest : IsClosed rest) {l : Layout} {depth : Nat} {ts : List Token}
    (hl : l.Stands (depth + 1) ts (s ++ (g ++ rest))) (hmay : keyed = true → l.mayKey = true) :
    ∃ us l', C us a ∧ l.Run l' ∧ l'.Stands (depth + 1) (us.reverse ++ ts) rest

theorem Cuts.keyed (h : Cuts false P C) : Cuts true P C where
  run hs hreturn _ _ hg hrest _ _ _ hl _ := h.run hs hreturn hg hrest hl (by simp)

theorem Parts.cut (hP : Cuts true P C) {s : List Char} {as : List α} (h : Parts P s as)
    (hreturn : '\r' ∉ s) {rest : List Char} (hrest : IsClosed rest) {l : Layout} {depth : Nat}
    {ts : List Token} (hl : l.Stands (depth + 1) ts (s ++ rest)) (hmay : l.mayKey = true) :
    ∃ us l', CutParts C us as ∧ l.Run l' ∧ l'.Stands (depth + 1) (us.reverse ++ ts) rest := by
  induction h generalizing l ts with
  | last hpart hgap =>
    simp only [List.mem_append, not_or] at hreturn
    rw [List.append_assoc] at hl
    obtain ⟨us, l', hus, hrun, hl'⟩ := hP.run hpart hreturn.1 (hgap.isFill hreturn.2) hrest hl
      fun _ => hmay
    exact ⟨us, l', .last hus, hrun, hl'⟩
  | @more s g g' s' a as hpart hgap hgap' hothers ih =>
    simp only [List.mem_append, List.mem_cons, not_or] at hreturn
    obtain ⟨hs, hg, -, hg', hs'⟩ := hreturn
    simp only [List.append_assoc, List.cons_append] at hl
    obtain ⟨us, l₁, hus, hrun, hl₁⟩ := hP.run hpart hs (hgap.isFill hg) ⟨',', _, rfl, .inl rfl⟩ hl
      fun _ => hmay
    obtain ⟨l₂, hstep, hl₂, hmay₂⟩ := hl₁.comma
    obtain ⟨vs, l₃, hvs, hrun', hl₃⟩ := ih hs' (hl₂.skip (hgap'.isFill hg')) hmay₂
    refine ⟨us ++ .comma :: vs, l₃, .more hus hvs, (hrun.tail hstep).trans hrun', ?_⟩
    simpa using hl₃

/-- What is between brackets is cut, wherever it stands. -/
theorem Bracketed.cut (hP : Cuts true P C) {opening closing : Char} {start finish : Token}
    (hb : Brackets opening closing start finish) {s : List Char} {as : List α}
    (h : Bracketed P opening closing s as) (hreturn : '\r' ∉ s) {rest : List Char} {l : Layout}
    {depth : Nat} {ts : List Token} (hl : l.Stands depth ts (s ++ rest)) :
    ∃ us l', CutBracketed C start finish us as ∧ l.Run l' ∧
      l'.Stands depth (us.reverse ++ ts) rest := by
  have hclosed (t : List Char) : IsClosed (closing :: t) := by
    cases hb
    · exact ⟨_, t, rfl, .inr (.inl rfl)⟩
    · exact ⟨_, t, rfl, .inr (.inr rfl)⟩
  cases h with
  | empty hgap =>
    simp only [List.mem_append, List.mem_cons, not_or] at hreturn
    simp only [List.append_assoc, List.cons_append, List.nil_append] at hl
    obtain ⟨l₁, hopens, hl₁, -⟩ := hl.opens hb
    obtain ⟨l₂, hcloses, hl₂⟩ := (hl₁.skip (hgap.isFill hreturn.2.1)).closes hb
    exact ⟨_, l₂, .empty, .tail (.single hopens) hcloses, hl₂⟩
  | parts hgap h =>
    simp only [List.mem_append, List.mem_cons, not_or] at hreturn
    simp only [List.append_assoc, List.cons_append, List.nil_append] at hl
    obtain ⟨l₁, hopens, hl₁, hmay⟩ := hl.opens hb
    obtain ⟨us, l₂, hus, hrun, hl₂⟩ := h.cut hP hreturn.2.2.1 (hclosed rest)
      (hl₁.skip (hgap.isFill hreturn.2.1)) hmay
    obtain ⟨l₃, hcloses, hl₃⟩ := hl₂.closes hb
    refine ⟨_, l₃, .parts hus, .head hopens (hrun.tail hcloses), ?_⟩
    simpa using hl₃

end

theorem scalar_cut {depth : Nat} : Cuts false scalar (cut (depth + 1)) where
  run {s v} h _ g rest hg hrest l d ts hl _ := by
    have hword (hs : IsWord s) (hdenotes : Scalar.Denotes ⟨s, true⟩ v) : ∃ us l',
        cut (depth + 1) us v ∧ l.Run l' ∧ l'.Stands (d + 1) (us.reverse ++ ts) rest := by
      obtain ⟨l', hstep, hl'⟩ := hl.word hs hg hrest
      exact ⟨[.scalar ⟨s, true⟩], l', .inl ⟨_, rfl, hdenotes⟩, .single hstep, hl'⟩
    cases h with
    | name h => exact hword (isWord_of_name h) (denotes_name h)
    | number h => exact hword (isWord_of_number h) (denotes_number h)
    | string h =>
      obtain ⟨name, rfl⟩ : ∃ name, v = .str name := by
        obtain ⟨-, name, -, hname, -⟩ := h
        exact ⟨name, hname⟩
      obtain ⟨l', hstep, hl', -⟩ := hl.string h
      exact ⟨[.scalar (.ofText name.toList)], l', .inl ⟨_, rfl, denotes_string name⟩, .single hstep,
        hl'.skip hg⟩

section

variable {V : Spelling} {D : List Token → Json → Prop} (hV : Cuts false V D)

include hV

theorem member_cut : Cuts true (SpellsMember V) (CutMember D) where
  run := by
    rintro s m ⟨hkey, hblanks, hnear, hgap, hvalue⟩ hreturn g rest hg hrest l depth ts hl hmay
    simp only [List.mem_append, List.mem_cons, not_or] at hreturn
    simp only [List.append_assoc, List.cons_append] at hl
    obtain ⟨-, -, -, hg', hs⟩ := hreturn
    obtain ⟨l₁, hrun, hl₁⟩ := hl.key hkey hblanks hnear (hmay rfl)
    obtain ⟨us, l₂, hus, hrun', hl₂⟩ := hV.run hvalue hs hg hrest (hl₁.skip (hgap.isFill hg'))
      (by simp)
    refine ⟨_, l₂, .mk hus, hrun.trans hrun', ?_⟩
    simpa using hl₂

theorem array_cut {s : List Char} {v : Json} (h : array V s v) (hreturn : '\r' ∉ s)
    {rest : List Char} {l : Layout} {depth : Nat} {ts : List Token}
    (hl : l.Stands depth ts (s ++ rest)) :
    ∃ us l', cutArray D us v ∧ l.Run l' ∧ l'.Stands depth (us.reverse ++ ts) rest := by
  obtain ⟨h⟩ := h
  obtain ⟨us, l', hus, hcut⟩ := h.cut hV.keyed .sequence hreturn hl
  exact ⟨us, l', .mk hus, hcut⟩

theorem object_cut {s : List Char} {v : Json} (h : object V s v) (hreturn : '\r' ∉ s)
    {rest : List Char} {l : Layout} {depth : Nat} {ts : List Token}
    (hl : l.Stands depth ts (s ++ rest)) :
    ∃ us l', cutObject D us v ∧ l.Run l' ∧ l'.Stands depth (us.reverse ++ ts) rest := by
  obtain ⟨h⟩ := h
  obtain ⟨us, l', hus, hcut⟩ := h.cut (member_cut hV) .mapping hreturn hl
  exact ⟨us, l', .mk hus, hcut⟩

end

theorem value_cut (depth : Nat) : Cuts false (value depth) (cut depth) := by
  induction depth with
  | zero => exact ⟨fun h => h.elim⟩
  | succ depth ih =>
    constructor
    rintro s v (h | h | h) hreturn g rest hg hrest l d ts hl hmay
    · exact scalar_cut.run h hreturn hg hrest hl hmay
    · obtain ⟨us, l', hus, hrun, hl'⟩ := array_cut ih h hreturn hl
      exact ⟨us, l', .inr (.inl hus), hrun, hl'.skip hg⟩
    · obtain ⟨us, l', hus, hrun, hl'⟩ := object_cut ih h hreturn hl
      exact ⟨us, l', .inr (.inr hus), hrun, hl'.skip hg⟩

/-- A list or an object is cut outside of all brackets, too. -/
theorem compound_cut {depth : Nat} {s : List Char} {v : Json} (h : value depth s v)
    (hv : isCompound v = true) (hreturn : '\r' ∉ s) {rest : List Char} {l : Layout} {d : Nat}
    {ts : List Token} (hl : l.Stands d ts (s ++ rest)) :
    ∃ us l', cut depth us v ∧ l.Run l' ∧ l'.Stands d (us.reverse ++ ts) rest := by
  rcases depth with _ | depth
  · exact h.elim
  · rcases h with h | h | h
    · exact absurd (hv.symm.trans (isCompound_of_scalar h)) (by decide)
    · obtain ⟨us, l', hus, hcut⟩ := array_cut (value_cut depth) h hreturn hl
      exact ⟨us, l', .inr (.inl hus), hcut⟩
    · obtain ⟨us, l', hus, hcut⟩ := object_cut (value_cut depth) h hreturn hl
      exact ⟨us, l', .inr (.inr hus), hcut⟩

/-- The text of a list or an object is cut into tokens of its value. -/
theorem cut_tokens {depth : Nat} {text : List Char} {v : Json}
    (h : alone (value depth) text v) (hreturn : '\r' ∉ text) (hv : isCompound v = true) :
    cut depth (Yaml.tokens text) v := by
  obtain ⟨hgap, hvalue, hgap'⟩ := h
  rename_i g s g'
  simp only [List.mem_append, not_or] at hreturn
  obtain ⟨hg, hs, hg'⟩ := hreturn
  have hstart : (Layout.ofText (g ++ (s ++ g'))).Stands 0 [] (s ++ g') :=
    ⟨⟨rfl, fun k hk => (Option.not_mem_none k hk).elim, List.forall_mem_nil _⟩,
      ⟨g, hgap.isFill hg, rfl⟩, rfl, rfl⟩
  obtain ⟨us, l', hus, hrun, hl'⟩ := compound_cut hvalue hv hs hstart
  rw [← List.append_nil g'] at hl'
  have hend := hl'.skip (hgap'.isFill hg')
  obtain ⟨-, hcursor, -⟩ := hend.ready (by rintro c ⟨⟩)
  obtain ⟨last, hlast, htokens⟩ := Layout.advance_nil hend.free hcursor
  have hcut : Yaml.tokens (g ++ (s ++ g')) = last.tokens.reverse :=
    hrun.finish hlast (Nat.lt_succ_self _)
  rw [hcut, htokens, hend.tokens, List.append_nil, List.reverse_reverse]
  exact hus

end ClientScribe.Common
