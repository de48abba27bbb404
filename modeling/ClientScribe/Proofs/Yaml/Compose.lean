import ClientScribe.Proofs.Yaml.Cut
import ClientScribe.Yaml.Reading

/-!
What can go wrong when nodes are read from tokens.  Apart from what the cut of the text has left as
a fault among the tokens, and from tokens that break the rules, only the nesting of nodes can go too
far, and that takes a token for each level.
-/

namespace ClientScribe.Yaml

/-- Why nodes cannot be read from tokens: by the rules, by one of the tokens, or because more nodes
are inside each other than are admitted, which are `room`. -/
inductive ComposeFault (room : Nat) (ts : List Token) : Fault → Prop
  | malformed : ComposeFault room ts .malformed
  | token {t : Token} {fault : Fault} (mem : t ∈ ts) (broken : t.fault? = some fault) :
    ComposeFault room ts fault
  | nesting (deep : room ≤ ts.length) : ComposeFault room ts .endless

theorem ComposeFault.mono {room room' : Nat} {ts us : List Token} {fault : Fault}
    (h : ComposeFault room ts fault) (hts : ts <:+ us)
    (hroom : room ≤ ts.length → room' ≤ us.length) : ComposeFault room' us fault := by
  cases h with
  | malformed => exact .malformed
  | token hmem hfault => exact .token (hts.subset hmem) hfault
  | nesting hdeep => exact .nesting (hroom hdeep)

namespace Part

variable {α β : Type} {room room' : Nat} {r : Reading} {p : Part α} {f : α → Part β}

/-- A reader takes tokens from the front, or ends in such a fault. -/
def Takes (room : Nat) (p : Part α) (r : Reading) : Prop :=
  Ends (ComposeFault room r.tokens) (fun q => q.2.tokens <:+ r.tokens) (p r)

theorem Takes.mono (h : Takes room p r) (hroom : room' ≤ room) : Takes room' p r :=
  h.imp (fun _ h => h.mono (List.suffix_refl _) (Nat.le_trans hroom)) fun _ h => h

theorem Takes.bind (hp : Takes room p r)
    (hf : ∀ a r', r'.tokens <:+ r.tokens → Takes room (f a) r') : Takes room (p >>= f) r := by
  refine Ends.bind hp fun q hq => ?_
  exact (hf q.1 q.2 hq).imp (fun _ h => h.mono hq fun hdeep => Nat.le_trans hdeep hq.length_le)
    fun _ h => h.trans hq

theorem takes_pure (a : α) : Takes room (pure a) r := List.suffix_refl _

theorem takes_malformed : Takes room (malformed : Part α) r := ComposeFault.malformed

theorem takes_head {f : Option Token → Part β}
    (hf : ∀ o, o = r.tokens.head? → Takes room (f o) r) : Takes room (head >>= f) r := by
  refine Ends.bind (Q := fun q => q = (r.tokens.head?, r)) ?_ fun q hq => hq ▸ hf _ rfl
  obtain ⟨_ | ⟨t, ts⟩, total, anchors, graph⟩ := r
  · rfl
  · cases t with
    | broken fault => exact .token List.mem_cons_self rfl
    | _ => rfl

/-- A token that is passed is one more that nodes inside each other took. -/
theorem takes_skip {f : Unit → Part β} (hr : r.tokens ≠ [])
    (hf : ∀ r', r'.tokens <:+ r.tokens → Takes room (f ()) r') :
    Takes (room + 1) (skip >>= f) r := by
  obtain ⟨t, ts, hts⟩ := List.exists_cons_of_ne_nil hr
  have hsuffix : ({ r with tokens := r.tokens.tail } : Reading).tokens <:+ r.tokens :=
    List.tail_suffix _
  refine (hf _ hsuffix).imp (fun _ h => h.mono hsuffix fun hdeep => ?_) fun _ h => h.trans hsuffix
  rw [hts] at hdeep ⊢
  exact Nat.succ_le_succ hdeep

/-- A step that takes no tokens. -/
def Stays (p : Part α) : Prop := ∀ r, ∃ a r', p r = .ok (a, r') ∧ r'.tokens = r.tokens

theorem Stays.bind (hp : Stays p) (hf : ∀ a r', r'.tokens = r.tokens → Takes room (f a) r') :
    Takes room (p >>= f) r := by
  obtain ⟨a, r', hread, htokens⟩ := hp r
  refine Ends.bind (Q := fun q => q = (a, r')) (by rw [hread]; rfl) fun q hq => ?_
  subst hq
  exact htokens ▸ hf a r' htokens

theorem stays_add (n : Node) : Stays (add n) := fun _ => ⟨_, _, rfl, rfl⟩

theorem stays_name (anchor : Option String) (i : Nat) : Stays (name anchor i) :=
  fun _ => ⟨_, _, rfl, rfl⟩

theorem stays_named? (anchor : String) : Stays (named? anchor) := fun _ => ⟨_, _, rfl, rfl⟩

theorem stays_total : Stays total := fun _ => ⟨_, _, rfl, rfl⟩

theorem Stays.takes (hp : Stays p) : Takes room p r := by
  have h : Takes room (p >>= pure) r := hp.bind fun a _ _ => takes_pure a
  rwa [bind_pure] at h

theorem takes_skipped : Takes room skip r := List.tail_suffix _

theorem Stays.then (hp : Stays p) (hf : ∀ a, ∀ r, Takes room (f a) r) : Takes room (p >>= f) r :=
  hp.bind fun a r' _ => hf a r'

/-- After a token has been passed the reader goes on. -/
theorem takes_skip_then {f : Unit → Part β} (hf : ∀ r, Takes room (f ()) r) :
    Takes room (skip >>= f) r := takes_skipped.bind fun _ r' _ => hf r'

/-! ### Properties -/

theorem takes_uriOf (handles : Handles) (t : TagName) : Takes room (uriOf handles t) r := by
  unfold uriOf
  split
  · exact takes_pure _
  · split
    · exact takes_pure _
    · exact takes_malformed

theorem takes_anchor? : Takes room anchor? r := by
  refine takes_head fun o _ => ?_
  split
  · exact takes_skip_then fun _ => takes_pure _
  · exact takes_pure _

theorem takes_tag? : Takes room tag? r := by
  refine takes_head fun o _ => ?_
  split
  · exact takes_skip_then fun _ => takes_pure _
  · exact takes_pure _

theorem takes_properties (handles : Handles) : Takes room (properties handles) r := by
  refine takes_anchor?.bind fun first r _ => takes_tag?.bind fun tag r _ => ?_
  cases tag with
  | none =>
    dsimp only
    split
    · exact takes_anchor?.bind fun _ _ _ => takes_pure _
    · exact (takes_pure first).bind fun _ _ _ => takes_pure _
  | some t =>
    dsimp only
    split
    · exact takes_anchor?.bind fun _ _ _ => (takes_uriOf handles t).bind fun _ _ _ => takes_pure _
    · exact (takes_pure first).bind fun _ _ _ => (takes_uriOf handles t).bind fun _ _ _ =>
        takes_pure _

/-! ### Collections -/

theorem ne_nil_of_head? {t : Token} (h : some t = r.tokens.head?) : r.tokens ≠ [] := by
  intro hnil
  rw [hnil] at h
  exact absurd h (by simp)

section

variable {item : Part Nat} (hitem : ∀ r, Takes room item r)

include hitem

theorem takes_orEmpty (ends : List Token) (r : Reading) : Takes room (orEmpty item ends) r := by
  refine takes_head fun o _ => ?_
  split
  · split
    · exact (stays_add _).takes
    · exact hitem r
  · exact hitem r

theorem takes_valueOrEmpty (ends : List Token) (r : Reading) :
    Takes room (valueOrEmpty item ends) r := by
  refine takes_head fun o _ => ?_
  split
  · exact takes_skip_then fun r => takes_orEmpty hitem ends r
  · exact (stays_add _).takes

theorem takes_blockItems (rounds : Nat) (done : List Nat) (r : Reading) :
    Takes room (blockItems item rounds done) r := by
  induction rounds generalizing done r with
  | zero => exact takes_malformed
  | succ rounds ih =>
    unfold blockItems
    refine takes_head fun o _ => ?_
    split
    · exact takes_skip_then fun r => (takes_orEmpty hitem _ r).bind fun _ r _ => ih _ r
    · exact takes_skip_then fun _ => takes_pure _
    · exact takes_malformed

/-- The items of a sequence without a block stand behind a hyphen each. -/
theorem takes_looseItems (rounds : Nat) (done : List Nat) (r : Reading) :
    Takes (room + 1) (looseItems item rounds done) r := by
  induction rounds generalizing done r with
  | zero => exact takes_malformed
  | succ rounds ih =>
    unfold looseItems
    refine takes_head fun o ho => ?_
    split
    · refine takes_skip (ne_nil_of_head? ho) fun r _ => ?_
      exact (takes_orEmpty hitem _ r).bind fun _ r _ => (ih _ r).mono (Nat.le_succ _)
    · exact takes_pure _

theorem takes_blockEntries (rounds : Nat) (done : List (Nat × Nat)) (r : Reading) :
    Takes room (blockEntries item rounds done) r := by
  induction rounds generalizing done r with
  | zero => exact takes_malformed
  | succ rounds ih =>
    unfold blockEntries
    refine takes_head fun o _ => ?_
    split
    · refine takes_skip_then fun r => (takes_orEmpty hitem _ r).bind fun _ r _ => ?_
      exact (takes_valueOrEmpty hitem _ r).bind fun _ r _ => ih _ r
    · exact takes_skip_then fun _ => takes_pure _
    · exact takes_malformed

theorem takes_flowItem (r : Reading) : Takes room (flowItem item) r := by
  refine takes_head fun o _ => ?_
  split
  · refine takes_skip_then fun r => (takes_orEmpty hitem _ r).bind fun _ r _ => ?_
    exact (takes_valueOrEmpty hitem _ r).bind fun _ _ _ => (stays_add _).takes
  · exact hitem r

theorem takes_flowEntry (r : Reading) : Takes room (flowEntry item) r := by
  refine takes_head fun o _ => ?_
  split
  · refine takes_skip_then fun r => (takes_orEmpty hitem _ r).bind fun _ r _ => ?_
    exact (takes_valueOrEmpty hitem _ r).bind fun _ _ _ => takes_pure _
  · exact (hitem r).bind fun _ _ _ => (stays_add _).then fun _ _ => takes_pure _

end

section

variable {part : Part α} (hpart : ∀ r, Takes room part r)

include hpart

theorem takes_flowRest (finish : Token) (rounds : Nat) (done : List α) (r : Reading) :
    Takes room (flowRest part finish rounds done) r := by
  induction rounds generalizing done r with
  | zero => exact takes_malformed
  | succ rounds ih =>
    unfold flowRest
    refine takes_head fun o _ => ?_
    split
    · split
      · exact takes_skip_then fun _ => takes_pure _
      · split
        · exact takes_malformed
        · refine takes_skip_then fun r => takes_head fun o _ => ?_
          split
          · exact takes_skip_then fun _ => takes_pure _
          · exact (hpart r).bind fun _ r _ => ih _ r
    · exact takes_malformed

theorem takes_flowParts (finish : Token) (rounds : Nat) (r : Reading) :
    Takes room (flowParts part finish rounds) r := by
  refine takes_head fun o _ => ?_
  split
  · exact takes_skip_then fun _ => takes_pure _
  · exact (hpart r).bind fun _ r _ => takes_flowRest hpart finish rounds _ r

end

/-! ### Nodes -/

theorem takes_collection {anchor : Option String} {tag : Tag} {content : List α → Content}
    {parts : Part (List α)} (hparts : ∀ r', r'.tokens = r.tokens → Takes room parts r') :
    Takes room (collection anchor tag content parts) r := by
  refine (stays_add _).bind fun i r' hr' => (stays_name anchor i).bind fun _ r'' hr'' => ?_
  refine (hparts r'' (hr''.trans hr')).bind fun as r _ => ?_
  have hfill : Stays
      (modify fun r => { r with graph := r.graph.fill i (content as) } : Part Unit) :=
    fun _ => ⟨_, _, rfl, rfl⟩
  exact hfill.then fun _ _ => takes_pure i

theorem takes_scalar (p : Properties) (s : Scalar) : Takes room (scalar p s) r :=
  (stays_add _).then fun i _ => (stays_name _ i).then fun _ _ => takes_pure i

/-- Behind the sign of a collection the tokens are one less. -/
theorem takes_skip_parts {parts : Part (List α)} (hne : r.tokens ≠ [])
    (hparts : ∀ r, Takes room parts r) (r' : Reading) (hr' : r'.tokens = r.tokens) :
    Takes (room + 1) (skip >>= fun _ => parts) r' :=
  takes_skip (hr' ▸ hne) fun r _ => hparts r

theorem takes_content {item : Place → Part Nat} (hitem : ∀ place r, Takes room (item place) r)
    (place : Place) (p : Properties) (r : Reading) :
    Takes (room + 1) (content item place p) r := by
  refine stays_total.bind fun rounds r' _ => takes_head fun o ho => ?_
  have hne {t : Token} (h : o = some t) : r'.tokens ≠ [] := ne_nil_of_head? (h ▸ ho)
  split
  · exact takes_collection fun r _ => takes_looseItems (hitem .block) rounds [] r
  · exact takes_skip_then fun _ => takes_scalar p _
  · exact takes_collection (takes_skip_parts (hne rfl)
      (takes_flowParts (takes_flowItem (hitem .flow)) _ rounds))
  · exact takes_collection (takes_skip_parts (hne rfl)
      (takes_flowParts (takes_flowEntry (hitem .flow)) _ rounds))
  · exact takes_collection (takes_skip_parts (hne rfl) (takes_blockItems (hitem .block) rounds []))
  · exact takes_collection (takes_skip_parts (hne rfl) (takes_blockItems (hitem .block) rounds []))
  · exact takes_collection
      (takes_skip_parts (hne rfl) (takes_blockEntries (hitem .entry) rounds []))
  · exact takes_collection
      (takes_skip_parts (hne rfl) (takes_blockEntries (hitem .entry) rounds []))
  · split
    · exact takes_malformed
    · exact takes_scalar p _

theorem takes_node (handles : Handles) (depth : Nat) (place : Place) (r : Reading) :
    Takes depth (node handles depth place) r := by
  induction depth generalizing place r with
  | zero =>
    unfold node
    refine takes_head fun o _ => ?_
    exact ComposeFault.nesting (Nat.zero_le _)
  | succ depth ih =>
    unfold node
    refine takes_head fun o _ => ?_
    split
    · refine takes_skip_then fun r => (stays_named? _).then fun i _ => ?_
      split
      · exact takes_pure _
      · exact takes_malformed
    · refine (takes_properties handles).bind fun p r _ => takes_head fun _ _ => ?_
      split
      · exact takes_content ih place p r
      · refine (stays_named? _).then fun i r => ?_
        split
        · exact takes_malformed
        · exact takes_content ih place p r

/-! ### Documents -/

theorem takes_directives (handles : Handles) (versioned : Bool) (rounds : Nat) (r : Reading) :
    Takes room (directives handles versioned rounds) r := by
  induction rounds generalizing handles versioned r with
  | zero => exact takes_pure _
  | succ rounds ih =>
    unfold directives
    refine takes_head fun o _ => ?_
    split
    · refine takes_skip_then fun r => ?_
      split
      · exact takes_malformed
      · exact ih _ _ r
    · refine takes_skip_then fun r => ?_
      split
      · exact takes_malformed
      · exact ih _ _ r
    · exact takes_skip_then fun r => ih _ _ r
    · exact takes_pure _

theorem takes_announced [Interpreter] (r : Reading) :
    Takes Interpreter.documentDepth announced r := by
  refine stays_total.bind fun rounds r _ => ?_
  refine (takes_directives _ _ rounds r).bind fun handles r _ => ?_
  refine takes_head fun o _ => ?_
  split
  · refine takes_skip_then fun r => takes_head fun o _ => ?_
    split
    · exact (stays_add _).takes
    · exact (stays_add _).takes
    · exact (stays_add _).takes
    · exact (stays_add _).takes
    · exact takes_node _ _ _ r
  · exact takes_malformed

theorem takes_skipEnds (rounds : Nat) (r : Reading) : Takes room (skipEnds rounds) r := by
  induction rounds generalizing r with
  | zero => exact takes_pure _
  | succ rounds ih =>
    unfold skipEnds
    refine takes_head fun o _ => ?_
    split
    · exact takes_skip_then ih
    · exact takes_pure _

theorem takes_finish (r : Reading) : Takes room finish r := by
  refine stays_total.bind fun rounds r _ => (takes_skipEnds rounds r).bind fun _ r _ => ?_
  refine takes_head fun o _ => ?_
  split
  · exact takes_pure _
  · exact stays_total.bind fun rounds r _ => (takes_directives _ _ rounds r).bind fun _ _ _ =>
      takes_malformed

theorem takes_document [Interpreter] (r : Reading) :
    Takes Interpreter.documentDepth document r := by
  refine takes_head fun o _ => ?_
  split
  · exact takes_pure _
  · have hfinish {p : Part Nat} (hp : Takes Interpreter.documentDepth p r) :
        Takes Interpreter.documentDepth
          (p >>= fun root => finish >>= fun _ => pure (some root)) r :=
      hp.bind fun _ r _ => (takes_finish r).bind fun _ _ _ => takes_pure _
    dsimp only
    split
    · exact hfinish (takes_announced r)
    · exact hfinish (takes_announced r)
    · exact hfinish (takes_node _ _ _ r)

end Part

/-- Tokens give nodes, or one of them is at fault, or they break the rules, or they are as many as
nodes may be inside each other at the least. -/
theorem composeFault_of_ofTokens [Interpreter] {ts : List Token} {fault : Fault}
    (h : Graph.ofTokens ts = .error fault) : ComposeFault Interpreter.documentDepth ts fault := by
  have hends := (Part.takes_document ⟨ts, ts.length, [], ⟨#[]⟩⟩).map
    (R := fun _ => True) (f := fun q => (q.2.graph, q.1)) fun _ _ => trivial
  exact hends.fault h

end ClientScribe.Yaml
