import ClientScribe.Proofs.Common.Words
import ClientScribe.Yaml.Layout
import Mathlib.Logic.Relation

/-!
The layout of a text without blocks.  One step reads one token; where nothing but gaps stands in
front of a token, the step depends on nothing else.
-/

namespace ClientScribe.Yaml

open Common (IsFill IsWord IsClosed)

/-! ### Places -/

namespace Cursor

variable {c : Cursor}

theorem rest_next_cons {ch : Char} {s : List Char} (h : c.rest = ch :: s) : c.next.rest = s := by
  rw [rest_next, h, List.tail_cons]

/-- Passing characters of one line moves the place along the line. -/
theorem skip_unbroken {s t : List Char} (h : c.rest = s ++ t) (hs : ∀ ch ∈ s, isBreak ch = false) :
    (c.skip s.length).line = c.line ∧ (c.skip s.length).index = c.index + s.length := by
  induction s generalizing c with
  | nil => exact ⟨rfl, rfl⟩
  | cons ch s ih =>
    rw [List.forall_mem_cons] at hs
    have hnext : c.next.line = c.line ∧ c.next.index = c.index + 1 := by
      simp [next, h, hs.1]
    obtain ⟨hline, hindex⟩ := ih (rest_next_cons h) hs.2
    rw [List.length_cons, skip, hline, hindex, hnext.1, hnext.2]
    exact ⟨rfl, by omega⟩

end Cursor

namespace Layout

variable {l l' : Layout} {depth : Nat} {ts : List Token} {rest s s' : List Char} {c : Char}

/-! ### Steps -/

/-- One token is read. -/
def Step (l l' : Layout) : Prop :=
  l.advance = .ok (l', true) ∧ l'.cursor.rest.length < l.cursor.rest.length

/-- Tokens are read one after the other. -/
abbrev Run : Layout → Layout → Prop := Relation.ReflTransGen Step

/-- What a run leaves at the end of a text are the tokens of the text. -/
theorem Run.finish (h : l.Run l') {last : Layout} (hend : l'.advance = .ok (last, false))
    {rounds : Nat} (hrounds : l.cursor.rest.length < rounds) :
    l.finish rounds = last.tokens.reverse := by
  induction h using Relation.ReflTransGen.head_induction_on generalizing rounds with
  | refl =>
    obtain ⟨rounds, rfl⟩ := Nat.exists_eq_add_of_lt (Nat.zero_lt_of_lt hrounds)
    rw [Nat.zero_add, Layout.finish, hend]
  | head hstep _ ih =>
    obtain ⟨rounds, rfl⟩ := Nat.exists_eq_add_of_lt (Nat.zero_lt_of_lt hrounds)
    rw [Nat.zero_add, Layout.finish, hstep.1]
    exact ih (by have := hstep.2; omega)

/-! ### Layouts without blocks -/

/-- The candidate, unless its colon can no longer come. -/
def fresh (c : Cursor) (candidate : Option Candidate) : Option Candidate :=
  candidate.filter fun k => !k.isStale c

/-- No block is open, and no key is required. -/
structure IsFree (l : Layout) : Prop where
  blocks : l.blocks = []
  candidate : ∀ k ∈ l.candidate, k.required = false
  outer : ∀ candidate ∈ l.outer, ∀ k ∈ candidate, k.required = false

theorem reject_of_free {candidate : Option Candidate} (h : ∀ k ∈ candidate, k.required = false) :
    reject candidate = .ok () := by
  rcases candidate with _ | k
  · rfl
  · rw [reject, h k rfl]
    rfl

theorem forget_of_free (h : l.IsFree) : l.forget = .ok { l with candidate := none } := by
  rw [forget, reject_of_free h.candidate]
  rfl

theorem freshen_of_free (c : Cursor) {candidate : Option Candidate}
    (h : ∀ k ∈ candidate, k.required = false) : freshen c candidate = .ok (fresh c candidate) := by
  rcases candidate with _ | k
  · rfl
  · rw [freshen, Option.any_some, fresh, Option.filter_some]
    by_cases hstale : k.isStale c = true
    · rw [if_pos hstale, hstale, reject_of_free h]
      rfl
    · rw [if_neg hstale, Bool.eq_false_iff.2 hstale]
      rfl

theorem mapM_freshen (c : Cursor) {outer : List (Option Candidate)}
    (h : ∀ candidate ∈ outer, ∀ k ∈ candidate, k.required = false) :
    outer.mapM (freshen c) = .ok (outer.map (fresh c)) := by
  induction outer with
  | nil => rfl
  | cons candidate outer ih =>
    rw [List.forall_mem_cons] at h
    rw [List.mapM_cons, freshen_of_free c h.1, ih h.2]
    rfl

theorem fresh_required {c : Cursor} {candidate : Option Candidate}
    (h : ∀ k ∈ candidate, k.required = false) : ∀ k ∈ fresh c candidate, k.required = false :=
  fun k hk => h k (Option.mem_filter_iff.1 hk).1

/-- The layout where the next token is read. -/
def ready (l : Layout) : Layout :=
  { l.skipGap with
    candidate := fresh l.skipGap.cursor l.candidate
    outer := l.outer.map (fresh l.skipGap.cursor) }

theorem skipGap_eq (l : Layout) :
    ∃ cursor mayKey, l.skipGap = { l with cursor := cursor, mayKey := mayKey } ∧
      (l.mayKey = true → mayKey = true) := by
  have hmark : ∃ cursor, l.skipMark = { l with cursor := cursor } := by
    rw [skipMark]
    split
    · exact ⟨_, rfl⟩
    · exact ⟨_, rfl⟩
  obtain ⟨cursor, hmark⟩ := hmark
  refine ⟨_, _, by rw [skipGap, hmark], fun h => ?_⟩
  simp [h]

theorem IsFree.ready (h : l.IsFree) : l.ready.IsFree := by
  obtain ⟨cursor, mayKey, hskip, -⟩ := l.skipGap_eq
  constructor
  · rw [Layout.ready, hskip]
    exact h.blocks
  · exact fresh_required h.candidate
  · rw [Layout.ready, List.forall_mem_map]
    exact fun candidate hc => fresh_required (h.outer candidate hc)

theorem dropStale_skipGap (h : l.IsFree) : l.skipGap.dropStale = .ok l.ready := by
  obtain ⟨cursor, mayKey, hskip, -⟩ := l.skipGap_eq
  rw [Layout.ready, hskip, dropStale, freshen_of_free cursor h.candidate,
    mapM_freshen cursor h.outer]
  rfl

theorem closeBlocks_of_free (h : l.IsFree) (deeper : Nat → Bool) : l.closeBlocks deeper = l := by
  obtain ⟨cursor, tokens, blocks, mayKey, candidate, outer⟩ := l
  obtain rfl : blocks = [] := h.blocks
  rw [closeBlocks]
  split <;> rfl

theorem advance_cons (h : l.IsFree) (hrest : l.ready.cursor.rest = c :: s) :
    l.advance = (l.ready.token c s).map fun l => (l, true) := by
  unfold advance
  simp only [dropStale_skipGap h, closeBlocks_of_free h.ready, bind, Except.bind, hrest]
  cases l.ready.token c s <;> rfl

theorem advance_nil (h : l.IsFree) (hrest : l.ready.cursor.rest = []) :
    ∃ last, l.advance = .ok (last, false) ∧ last.tokens = l.tokens := by
  obtain ⟨cursor, mayKey, hskip, -⟩ := l.skipGap_eq
  refine ⟨{ l.ready with candidate := none, mayKey := false }, ?_, ?_⟩
  · unfold advance
    simp only [dropStale_skipGap h, closeBlocks_of_free h.ready, bind, Except.bind, hrest,
      endBlocks, forget_of_free h.ready, Except.map, pure, Except.pure]
  · rw [Layout.ready, hskip]

/-! ### What stands ahead -/

/-- What a token may begin with where a gap may stand in front of it. -/
def IsSolid (rest : List Char) : Prop :=
  ∀ c ∈ rest.head?, isBreak c = false ∧ c ≠ ' ' ∧ c ≠ '#' ∧ c ≠ '\uFEFF'

theorem gap_fill {g : List Char} (hg : IsFill g) (hrest : IsSolid rest) :
    (gap false (g ++ rest)).1 = g.length := by
  induction g with
  | nil =>
    rcases rest with _ | ⟨c, s⟩
    · rfl
    · obtain ⟨hbreak, hspace, hhash, -⟩ := hrest c rfl
      simp [gap, hbreak, hspace, hhash]
  | cons d g ih =>
    rw [IsFill, List.forall_mem_cons] at hg
    rcases hg.1 with rfl | rfl <;> simpa [gap, isBreak] using ih hg.2

/-- A layout without blocks inside `depth` brackets, with the tokens `ts` behind it, last first,
and `rest` ahead but for a gap. -/
structure Stands (l : Layout) (depth : Nat) (ts : List Token) (rest : List Char) : Prop where
  free : l.IsFree
  gap : ∃ g, IsFill g ∧ l.cursor.rest = g ++ rest
  depth : l.outer.length = depth
  tokens : l.tokens = ts

/-- A gap does not count. -/
theorem Stands.skip {g : List Char} (h : l.Stands depth ts (g ++ rest)) (hg : IsFill g) :
    l.Stands depth ts rest := by
  obtain ⟨g', hg', hrest⟩ := h.gap
  refine ⟨h.free, ⟨g' ++ g, List.forall_mem_append.2 ⟨hg', hg⟩, ?_⟩, h.depth, h.tokens⟩
  rw [hrest, List.append_assoc]

theorem skipMark_fill {g : List Char} (hg : IsFill g) (hrest : IsSolid rest)
    (h : l.cursor.rest = g ++ rest) : l.skipMark = l := by
  have hhead : l.cursor.rest.head? ≠ some '\uFEFF' := by
    rw [h]
    rcases g with _ | ⟨d, g⟩
    · exact fun hd => (hrest _ hd).2.2.2 rfl
    · rcases hg d List.mem_cons_self with rfl | rfl <;>
        exact fun hd => absurd (Option.some.inj hd) (by decide)
  rw [skipMark, if_neg (by simp [hhead])]

theorem cursor_ready {g : List Char} (hg : IsFill g) (hrest : IsSolid rest)
    (h : l.cursor.rest = g ++ rest) : l.ready.cursor = l.cursor.skip g.length := by
  rw [ready, skipGap, skipMark_fill hg hrest h, h, ← gap_fill hg hrest]

theorem Stands.ready (h : l.Stands depth ts rest) (hrest : IsSolid rest) :
    l.ready.Stands depth ts rest ∧ l.ready.cursor.rest = rest ∧
      (l.mayKey = true → l.ready.mayKey = true) := by
  obtain ⟨g, hg, hcursor⟩ := h.gap
  obtain ⟨cursor, mayKey, hskip, hmay⟩ := l.skipGap_eq
  have hready : l.ready.cursor.rest = rest := by
    rw [cursor_ready hg hrest hcursor, Cursor.rest_skip, hcursor, List.drop_left]
  refine ⟨⟨h.free.ready, ⟨[], List.forall_mem_nil _, hready⟩, ?_, ?_⟩, hready, ?_⟩
  · rw [Layout.ready, List.length_map, h.depth]
  · rw [Layout.ready, hskip]
    exact h.tokens
  · rw [Layout.ready, hskip]
    exact hmay

/-! ### Brackets and commas -/

/-- The signs around a collection, and their tokens. -/
inductive Brackets : (opening closing : Char) → (start finish : Token) → Prop
  | sequence : Brackets '[' ']' .flowSequence .flowSequenceEnd
  | mapping : Brackets '{' '}' .flowMapping .flowMappingEnd

/-- A token that is read in front of `rest` leaves what stands ahead. -/
theorem Stands.step (h : l.Stands depth ts (c :: s)) (hc : IsSolid (c :: s))
    (htoken : l.ready.token c s = .ok l') (hlt : l'.cursor.rest.length ≤ s.length) :
    l.Step l' := by
  obtain ⟨-, hready, -⟩ := h.ready hc
  obtain ⟨g, -, hcursor⟩ := h.gap
  refine ⟨by rw [advance_cons h.free hready, htoken]; rfl, ?_⟩
  rw [hcursor, List.length_append, List.length_cons]
  omega

/-- A key may begin at a token; inside brackets it need not. -/
theorem offer_of_free (h : l.IsFree) : ∃ candidate,
    l.offer = .ok { l with candidate := candidate } ∧
    (∀ k ∈ candidate, k.required = false) ∧ (l.mayKey = true → candidate =
      some ⟨l.tokens.length, false, l.cursor.index, l.cursor.line, l.cursor.column⟩) := by
  rw [offer]
  split
  · rw [reject_of_free h.candidate]
    refine ⟨_, rfl, ?_, fun _ => ?_⟩
    · intro k hk
      cases hk
      simp [h.blocks]
    · simp [h.blocks]
  · exact ⟨l.candidate, rfl, h.candidate, fun hmay => absurd hmay ‹_›⟩

variable {opening closing : Char} {start finish : Token}

theorem Stands.opens (hb : Brackets opening closing start finish)
    (h : l.Stands depth ts (opening :: s)) :
    ∃ l', l.Step l' ∧ l'.Stands (depth + 1) (start :: ts) s ∧ l'.mayKey = true := by
  have hsolid : IsSolid (opening :: s) := by
    rintro c ⟨⟩
    cases hb <;> exact ⟨rfl, by decide, by decide, by decide⟩
  obtain ⟨hready, hrest, -⟩ := h.ready hsolid
  obtain ⟨candidate, hoffer, hrequired, -⟩ := offer_of_free hready.free
  have htoken : l.ready.token opening s = l.ready.openFlow start := by
    cases hb <;> simp [token, isMarker]
  rw [openFlow, hoffer] at htoken
  have hlength := Nat.le_of_eq (congrArg List.length (Cursor.rest_next_cons hrest))
  refine ⟨_, h.step hsolid htoken hlength, ?_, rfl⟩
  refine ⟨⟨hready.free.blocks, fun k hk => (Option.not_mem_none k hk).elim, ?_⟩,
    ⟨[], List.forall_mem_nil _, Cursor.rest_next_cons hrest⟩, ?_, ?_⟩
  · exact List.forall_mem_cons.2 ⟨hrequired, hready.free.outer⟩
  · exact congrArg (· + 1) hready.depth
  · exact congrArg (start :: ·) hready.tokens

theorem Stands.closes (hb : Brackets opening closing start finish)
    (h : l.Stands (depth + 1) ts (closing :: s)) :
    ∃ l', l.Step l' ∧ l'.Stands depth (finish :: ts) s := by
  have hsolid : IsSolid (closing :: s) := by
    rintro c ⟨⟩
    cases hb <;> exact ⟨rfl, by decide, by decide, by decide⟩
  obtain ⟨hready, hrest, -⟩ := h.ready hsolid
  have htoken : l.ready.token closing s = l.ready.closeFlow finish := by
    cases hb <;> simp [token, isMarker]
  obtain ⟨candidate, outer, houter⟩ := List.exists_cons_of_length_eq_add_one hready.depth
  have hfree := hready.free.outer
  rw [houter, List.forall_mem_cons] at hfree
  rw [closeFlow, forget_of_free hready.free] at htoken
  simp only [Except.bind, houter] at htoken
  refine ⟨_, h.step hsolid htoken (Nat.le_of_eq (congrArg _ (Cursor.rest_next_cons hrest))), ?_⟩
  refine ⟨⟨hready.free.blocks, hfree.1, hfree.2⟩,
    ⟨[], List.forall_mem_nil _, Cursor.rest_next_cons hrest⟩, ?_, ?_⟩
  · have hdepth := hready.depth
    rw [houter, List.length_cons] at hdepth
    exact Nat.succ.inj hdepth
  · exact congrArg (finish :: ·) hready.tokens

theorem Stands.comma (h : l.Stands depth ts (',' :: s)) :
    ∃ l', l.Step l' ∧ l'.Stands depth (.comma :: ts) s ∧ l'.mayKey = true := by
  have hsolid : IsSolid (',' :: s) := by
    rintro c ⟨⟩
    exact ⟨rfl, by decide, by decide, by decide⟩
  obtain ⟨hready, hrest, -⟩ := h.ready hsolid
  have htoken : l.ready.token ',' s = l.ready.comma := by simp [token, isMarker]
  rw [Layout.comma, forget_of_free hready.free] at htoken
  have hlength := Nat.le_of_eq (congrArg List.length (Cursor.rest_next_cons hrest))
  refine ⟨_, h.step hsolid htoken hlength, ?_, rfl⟩
  refine ⟨⟨hready.free.blocks, fun k hk => (Option.not_mem_none k hk).elim, hready.free.outer⟩,
    ⟨[], List.forall_mem_nil _, Cursor.rest_next_cons hrest⟩, hready.depth, ?_⟩
  exact congrArg (Token.comma :: ·) hready.tokens

/-! ### Words, strings and keys -/

theorem isMarker_word (h : IsWord s) (rest : List Char) : isMarker (s ++ rest) = false := by
  obtain ⟨-, c, t, rfl, hdot, hminus⟩ := h
  rw [List.cons_append]
  unfold isMarker
  split
  · rename_i heq
    obtain ⟨d, u, rfl, hd⟩ := hminus (List.cons.inj heq).1
    have hsecond := (List.cons.inj (List.cons.inj heq).2).1
    subst hsecond
    cases hd
  · exact absurd (List.cons.inj ‹_›).1 hdot
  · rfl

theorem token_word (h : IsWord s) (hflow : l.inFlow = true) (hs : s ++ rest = c :: s') :
    l.token c s' = l.plain := by
  have hmarker := isMarker_word h rest
  have hstarts := Common.startsPlain_word h rest
  obtain ⟨hchars, d, t, rfl, hdot, hminus⟩ := h
  rw [List.cons_append] at hs hmarker hstarts
  obtain ⟨rfl, rfl⟩ := List.cons.inj hs
  have hne {x : Char} (hx : Common.isWordChar x = false) : d ≠ x := by
    rintro rfl
    rw [hchars _ List.mem_cons_self] at hx
    cases hx
  have hentry : (d = '-' && atGap (t ++ rest)) = false := by
    by_cases hd : d = '-'
    · obtain ⟨x, u, rfl, hx⟩ := hminus hd
      have hgap := (Common.not_sign_of_isWordChar (Common.isWordChar_of_isDigit hx)).1
      simp [atGap, hgap]
    · simp [hd]
  simp only [token, hmarker, hstarts, hentry, hflow, hne (x := '%') (by decide),
    hne (x := '[') (by decide), hne (x := '{') (by decide), hne (x := ']') (by decide),
    hne (x := '}') (by decide), hne (x := ',') (by decide), hne (x := '?') (by decide),
    hne (x := ':') (by decide), hne (x := '*') (by decide), hne (x := '&') (by decide),
    hne (x := '!') (by decide), hne (x := '\'') (by decide), hne (x := '"') (by decide)]
  simp

theorem inFlow_of_depth (h : l.outer.length = depth + 1) : l.inFlow = true := by
  obtain ⟨candidate, outer, houter⟩ := List.exists_cons_of_length_eq_add_one h
  rw [inFlow, houter]
  rfl

/-- A word is read with the gap behind it. -/
theorem Stands.word {g : List Char} (hs : IsWord s) (hg : IsFill g) (hrest : IsClosed rest)
    (h : l.Stands (depth + 1) ts (s ++ (g ++ rest))) :
    ∃ l', l.Step l' ∧ l'.Stands (depth + 1) (.scalar ⟨s, true⟩ :: ts) rest := by
  obtain ⟨d, t, rfl, -⟩ := hs.head
  rw [List.cons_append] at h
  have hsolid : IsSolid (d :: (t ++ (g ++ rest))) := by
    rintro c ⟨⟩
    have hd := hs.chars d List.mem_cons_self
    obtain ⟨hgap, -, hsign, -⟩ := Common.not_sign_of_isWordChar hd
    simp only [Yaml.isGap, isPad, Bool.or_eq_false_iff, decide_eq_false_iff_not] at hgap
    refine ⟨hgap.2, hgap.1.1, ?_, ?_⟩ <;> rintro rfl <;> cases hd
  obtain ⟨hready, hcursor, -⟩ := h.ready hsolid
  obtain ⟨candidate, hoffer, hrequired, -⟩ := offer_of_free hready.free
  have hflow := inFlow_of_depth hready.depth
  obtain ⟨htext, hbehind⟩ := Common.plainText_word hg hrest hs hcursor l.ready.least
  have htoken : l.ready.token d (t ++ (g ++ rest)) = l.ready.plain :=
    token_word hs hflow List.cons_append
  rw [plain, hoffer] at htoken
  change _ = Except.ok { l.ready with
    tokens := .scalar (PlainText.read l.ready.inFlow l.ready.least l.ready.cursor).scalar ::
      l.ready.tokens
    candidate := candidate
    cursor := (PlainText.read l.ready.inFlow l.ready.least l.ready.cursor).cursor
    mayKey := (PlainText.read l.ready.inFlow l.ready.least l.ready.cursor).broken } at htoken
  rw [hflow] at htoken
  refine ⟨_, h.step hsolid htoken ?_, ⟨hready.free.blocks, hrequired, hready.free.outer⟩,
    ⟨[], List.forall_mem_nil _, hbehind⟩, hready.depth, ?_⟩
  · dsimp only
    rw [hbehind]
    simp only [List.length_append]
    omega
  · dsimp only
    rw [PlainText.scalar, htext, hready.tokens]

theorem Stands.string {k : List Char} {name : String} (hk : Common.string k (.str name))
    (h : l.Stands depth ts (k ++ rest)) :
    ∃ l', l.Step l' ∧ l'.Stands depth (.scalar (.ofText name.toList) :: ts) rest ∧
      l'.cursor.rest = rest ∧ (l.mayKey = true → ∃ candidate, l'.candidate = some candidate ∧
        candidate.count = ts.length ∧ candidate.line = l'.cursor.line ∧
        candidate.index + k.length = l'.cursor.index) := by
  have hunbroken : ∀ c ∈ k, isBreak c = false := fun c hc =>
    (Common.isFirm_of_string hk c hc).unbroken
  obtain ⟨t, rfl, hquoted⟩ := Common.quoted_string hk
  rw [List.cons_append] at h
  have hsolid : IsSolid ('"' :: (t ++ rest)) := by
    rintro c ⟨⟩
    exact ⟨rfl, by decide, by decide, by decide⟩
  obtain ⟨hready, hcursor, hmay⟩ := h.ready hsolid
  obtain ⟨candidate, hoffer, hrequired, hcandidate⟩ := offer_of_free hready.free
  have htoken : l.ready.token '"' (t ++ rest) = l.ready.part (Scalar.quoted true) .scalar := by
    simp [token, isMarker]
  have hmove : l.ready.cursor.moveTo rest = l.ready.cursor.skip ('"' :: t).length := by
    rw [Cursor.moveTo, hcursor, ← List.cons_append, List.length_append, Nat.add_sub_cancel]
  have hbehind : (l.ready.cursor.moveTo rest).rest = rest := by
    rw [hmove, Cursor.rest_skip, hcursor, ← List.cons_append, List.drop_left]
  obtain ⟨hline, hindex⟩ := Cursor.skip_unbroken (s := '"' :: t) hcursor hunbroken
  have hpart : l.ready.part (Scalar.quoted true) .scalar = .ok { l.ready with
      tokens := .scalar (.ofText name.toList) :: l.ready.tokens
      candidate := candidate
      cursor := l.ready.cursor.moveTo rest
      mayKey := false } := by
    unfold part
    simp only [hoffer, bind, Except.bind, hcursor, List.drop_one, List.tail_cons, hquoted]
    rfl
  refine ⟨_, h.step hsolid (htoken.trans hpart) ?_,
    ⟨⟨hready.free.blocks, hrequired, hready.free.outer⟩,
      ⟨[], List.forall_mem_nil _, hbehind⟩, hready.depth, ?_⟩, hbehind, fun hl => ?_⟩
  · dsimp only
    rw [hbehind, List.length_append]
    omega
  · dsimp only
    rw [hready.tokens]
  · refine ⟨_, hcandidate (hmay hl), congrArg List.length hready.tokens, ?_, ?_⟩
    · dsimp only
      rw [hmove, hline]
    · dsimp only
      rw [hmove, hindex]

/-- A key in front of a colon is announced. -/
theorem Stands.key {k g : List Char} {name : String} (hk : Common.string k (.str name))
    (hg : ∀ c ∈ g, c = ' ') (hnear : k.length + g.length ≤ Candidate.reach)
    (h : l.Stands (depth + 1) ts (k ++ (g ++ ':' :: s))) (hmay : l.mayKey = true) :
    ∃ l', l.Run l' ∧
      l'.Stands (depth + 1) (.value :: .scalar (.ofText name.toList) :: .key :: ts) s := by
  obtain ⟨l', hstep, hl', hbehind, hcandidate⟩ := h.string hk
  obtain ⟨candidate, hl'candidate, hcount, hline, hindex⟩ := hcandidate hmay
  have hfill : IsFill g := fun c hc => .inl (hg c hc)
  have hsolid : IsSolid (':' :: s) := by
    rintro c ⟨⟩
    exact ⟨rfl, by decide, by decide, by decide⟩
  have hat := hl'.skip hfill
  obtain ⟨hready, hcursor, -⟩ := hat.ready hsolid
  obtain ⟨hreadyLine, hreadyIndex⟩ := Cursor.skip_unbroken hbehind (fun c hc => by
    rw [hg c hc]
    rfl)
  -- the key and its colon are in one line and close to each other
  have hstale : candidate.isStale l'.ready.cursor = false := by
    rw [cursor_ready hfill hsolid hbehind, Candidate.isStale, hreadyLine, hline, hreadyIndex,
      ← hindex]
    simp only [bne_self_eq_false, Bool.false_or, decide_eq_false_iff_not]
    omega
  have hkept : l'.ready.candidate = some candidate := by
    change fresh l'.ready.cursor l'.candidate = _
    rw [hl'candidate, fresh, Option.filter_some, hstale]
    rfl
  have hflow := inFlow_of_depth hready.depth
  have htoken : l'.ready.token ':' s = l'.ready.colon := by simp [token, isMarker, hflow]
  have hcolon : l'.ready.colon = .ok { l'.ready with
      cursor := l'.ready.cursor.next
      tokens := .value :: .scalar (.ofText name.toList) :: .key :: ts
      candidate := none
      mayKey := false } := by
    rw [inFlow, Bool.not_eq_true'] at hflow
    simp [colon, hkept, announce, inFlow, hflow, insert, hready.tokens, hcount, sign, push, next]
  refine ⟨_, .tail (.single hstep) (hat.step hsolid (htoken.trans hcolon)
    (Nat.le_of_eq (congrArg _ (Cursor.rest_next_cons hcursor)))), ?_⟩
  exact ⟨⟨hready.free.blocks, fun k hk => (Option.not_mem_none k hk).elim, hready.free.outer⟩,
    ⟨[], List.forall_mem_nil _, Cursor.rest_next_cons hcursor⟩, hready.depth, rfl⟩

end Layout

end ClientScribe.Yaml
