import ClientScribe.Proofs.Common.Graph
import ClientScribe.Proofs.Common.Tokens

/-!
The nodes of common texts: from tokens of a value come nodes that tell the value.
-/

namespace ClientScribe.Yaml

namespace Part

open Common (CutBracketed CutMember CutParts cut cutArray cutObject)
open Yaml.Graph (KeepsFrom TellsItem TellsMember)

variable {α β : Type} {r r' : Reading} {t : Token} {ts rest : List Token} {rounds : Nat}

/-! ### Single steps -/

theorem bind_eq {p : Part α} {f : α → Part β} {a : α} (h : p r = .ok (a, r')) :
    (p >>= f) r = f a r' := by
  change (p r).bind (fun q => f q.1 q.2) = _
  rw [h]
  rfl

theorem head_eq (h : r.tokens = t :: ts) (ht : t.fault? = none) : head r = .ok (some t, r) := by
  obtain ⟨tokens, total, anchors, graph⟩ := r
  cases h
  cases t with
  | broken fault => cases ht
  | _ => rfl

theorem head_nil (h : r.tokens = []) : head r = .ok (none, r) := by
  obtain ⟨tokens, total, anchors, graph⟩ := r
  cases h
  rfl

theorem skip_eq (h : r.tokens = t :: ts) : skip r = .ok ((), { r with tokens := ts }) := by
  obtain ⟨tokens, total, anchors, graph⟩ := r
  cases h
  rfl

/-! ### Parts between brackets -/

/-- What the tokens of a part begin with. -/
inductive Opens : Token → Prop
  | scalar (s : Scalar) : Opens (.scalar s)
  | flowSequence : Opens .flowSequence
  | flowMapping : Opens .flowMapping
  | key : Opens .key

theorem Opens.fault? (h : Opens t) : t.fault? = none := by cases h <;> rfl

/-- The tokens behind parts. -/
inductive Closes : Token → Prop
  | sequence : Closes .flowSequenceEnd
  | mapping : Closes .flowMappingEnd

/-- Of tokens that stand for `b` as `C` says, `part` reads all and nothing else; `R` tells in which
graph, and behind which node, what it gives tells `b`. -/
structure Reads (part : Part α) (C : List Token → β → Prop) (R : Graph → Nat → α → β → Prop) :
    Prop where
  head {us : List Token} {b : β} (h : C us b) : ∃ t ts, us = t :: ts ∧ Opens t
  keep {g g' : Graph} {low low' : Nat} {a : α} {b : β} (h : R g low a b) (hlow : low' ≤ low)
    (hkeeps : KeepsFrom low g g') : R g' low' a b
  read {us : List Token} {b : β} (h : C us b) {r : Reading} {rest : List Token}
    (htokens : r.tokens = us ++ rest) (htotal : r.tokens.length ≤ r.total) :
    ∃ a g, part r = .ok (a, { r with tokens := rest, graph := g }) ∧ r.graph.Grows g ∧
      R g r.graph.size a b

section

variable {part : Part α} {C : List Token → β → Prop} {R : Graph → Nat → α → β → Prop}
  {finish : Token}

theorem flowRest_end (hfinish : Closes finish) (h : r.tokens = finish :: rest) (done : List α) :
    flowRest part finish (rounds + 1) done r = .ok (done.reverse, { r with tokens := rest }) := by
  have hfault : finish.fault? = none := by cases hfinish <;> rfl
  rw [flowRest, bind_eq (head_eq h hfault)]
  simp only [↓reduceIte]
  rw [bind_eq (skip_eq h)]
  rfl

theorem flowRest_comma (hfinish : Closes finish) (h : r.tokens = .comma :: t :: ts) (ht : Opens t)
    (done : List α) : flowRest part finish (rounds + 1) done r =
      (part >>= fun a => flowRest part finish rounds (a :: done)) { r with tokens := t :: ts } := by
  have hcomma : Token.comma ≠ finish := by cases hfinish <;> simp
  have hopens : some t ≠ some finish := by cases hfinish <;> cases ht <;> simp
  rw [flowRest, bind_eq (head_eq h rfl)]
  simp only [hcomma, ↓reduceIte, ne_eq, not_true_eq_false]
  rw [bind_eq (skip_eq h), bind_eq (head_eq rfl ht.fault?), if_neg hopens]

variable (hpart : Reads part C R) (hfinish : Closes finish)

include hpart

theorem Reads.keepAll {g g' : Graph} {low low' : Nat} {as : List α} {bs : List β}
    (h : List.Forall₂ (R g low) as bs) (hlow : low' ≤ low) (hkeeps : KeepsFrom low g g') :
    List.Forall₂ (R g' low') as bs :=
  h.imp fun _ _ h => hpart.keep h hlow hkeeps

theorem Reads.headParts {us : List Token} {bs : List β} (h : CutParts C us bs) :
    ∃ t ts, us = t :: ts ∧ Opens t := by
  cases h with
  | last h => exact hpart.head h
  | more h =>
    obtain ⟨t, ts, rfl, ht⟩ := hpart.head h
    exact ⟨t, _, rfl, ht⟩

include hfinish

/-- A part and all behind it are read. -/
theorem parts_cut {us : List Token} {bs : List β} (h : CutParts C us bs)
    (htokens : r.tokens = us ++ finish :: rest) (htotal : r.tokens.length ≤ r.total)
    (hrounds : r.tokens.length ≤ rounds) (done : List α) : ∃ as g,
      (part >>= fun a => flowRest part finish rounds (a :: done)) r =
        .ok (done.reverse ++ as, { r with tokens := rest, graph := g }) ∧
      r.graph.Grows g ∧ List.Forall₂ (R g r.graph.size) as bs := by
  obtain ⟨rounds, rfl⟩ : ∃ n, rounds = n + 1 := by
    refine Nat.exists_eq_add_one.2 (Nat.lt_of_lt_of_le ?_ hrounds)
    rw [htokens, List.length_append, List.length_cons]
    omega
  induction h generalizing r rounds done with
  | @last us b hus =>
    obtain ⟨a, g, hread, hgrows, ha⟩ := hpart.read hus htokens htotal
    refine ⟨[a], g, ?_, hgrows, .cons ha .nil⟩
    rw [bind_eq hread, flowRest_end hfinish rfl, List.reverse_cons]
  | @more us vs b bs hus hvs ih =>
    rw [List.append_assoc, List.cons_append] at htokens
    obtain ⟨a, g, hread, hgrows, ha⟩ := hpart.read hus htokens htotal
    obtain ⟨t, ts, hvsTokens, ht⟩ := hpart.headParts hvs
    have hlength : (vs ++ finish :: rest).length + 2 ≤ r.tokens.length := by
      obtain ⟨u, us, rfl, -⟩ := hpart.head hus
      rw [htokens]
      simp only [List.length_append, List.length_cons]
      omega
    obtain ⟨rounds, rfl⟩ : ∃ n, rounds = n + 1 := Nat.exists_eq_add_one.2 (by omega)
    obtain ⟨as, g', hrest, hgrows', has⟩ : ∃ as g',
        (part >>= fun b => flowRest part finish (rounds + 1) (b :: a :: done))
          { r with tokens := vs ++ finish :: rest, graph := g } =
          .ok ((a :: done).reverse ++ as, { r with tokens := rest, graph := g' }) ∧
        g.Grows g' ∧ List.Forall₂ (R g' g.size) as bs :=
      ih (r := { r with tokens := vs ++ finish :: rest, graph := g }) rfl
        (Nat.le_trans (Nat.le_of_succ_le (Nat.le_of_succ_le hlength)) htotal) _ _
        (Nat.le_of_succ_le (Nat.le_of_succ_le_succ (Nat.le_trans hlength hrounds)))
    refine ⟨a :: as, g', ?_, hgrows.trans hgrows', .cons ?_ ?_⟩
    · rw [bind_eq hread, flowRest_comma hfinish (by rw [hvsTokens]; rfl) ht]
      rw [hvsTokens] at hrest
      rw [List.reverse_cons, List.append_assoc] at hrest
      exact hrest
    · exact hpart.keep ha (Nat.le_refl _) (hgrows'.keeps.mono (Nat.zero_le _))
    · exact hpart.keepAll has hgrows.keeps.size_le fun _ _ _ hn => hn

theorem flowParts_cut {start : Token} {us : List Token} {bs : List β}
    (h : CutBracketed C start finish us bs) (htokens : r.tokens = us ++ rest)
    (htotal : r.tokens.length ≤ r.total) : ∃ as g,
      (skip >>= fun _ => flowParts part finish r.total) r =
        .ok (as, { r with tokens := rest, graph := g }) ∧
      r.graph.Grows g ∧ List.Forall₂ (R g r.graph.size) as bs := by
  have hfault : finish.fault? = none := by cases hfinish <;> rfl
  cases h with
  | empty =>
    refine ⟨[], r.graph, ?_, ⟨fun _ _ _ hn => hn, id⟩, .nil⟩
    rw [bind_eq (skip_eq htokens), flowParts, bind_eq (head_eq rfl hfault), if_pos rfl,
      bind_eq (skip_eq rfl)]
    rfl
  | @parts us bs hus =>
    rw [List.cons_append, List.append_assoc] at htokens
    obtain ⟨t, ts, husTokens, ht⟩ := hpart.headParts hus
    have hopens : some t ≠ some finish := by cases hfinish <;> cases ht <;> simp
    have hlength : (us ++ ([finish] ++ rest)).length ≤ r.total := by
      rw [htokens, List.length_cons] at htotal
      exact Nat.le_of_succ_le htotal
    obtain ⟨as, g, hread, hgrows, has⟩ : ∃ as g,
        (part >>= fun a => flowRest part finish r.total [a])
          { r with tokens := us ++ ([finish] ++ rest) } =
          .ok (as, { r with tokens := rest, graph := g }) ∧
        r.graph.Grows g ∧ List.Forall₂ (R g r.graph.size) as bs :=
      parts_cut hpart hfinish hus rfl hlength hlength []
    refine ⟨as, g, ?_, hgrows, has⟩
    rw [bind_eq (skip_eq htokens), flowParts,
      bind_eq (head_eq (by rw [husTokens]; rfl) ht.fault?), if_neg hopens]
    exact hread

/-- A collection has its number before its parts are read, and is filled with them. -/
theorem collection_cut {start : Token} {us : List Token} {bs : List β}
    (h : CutBracketed C start finish us bs) (htokens : r.tokens = us ++ rest)
    (htotal : r.tokens.length ≤ r.total) (tag : Tag) (content : List α → Content) : ∃ as g,
      collection none tag content (skip >>= fun _ => flowParts part finish r.total) r =
        .ok (r.graph.size,
          { r with tokens := rest, graph := g.fill r.graph.size (content as) }) ∧
      (r.graph.add ⟨tag, content []⟩).Grows g ∧
      List.Forall₂ (R (g.fill r.graph.size (content as)) (r.graph.size + 1)) as bs := by
  obtain ⟨as, g, hread, hgrows, has⟩ : ∃ as g,
      (skip >>= fun _ => flowParts part finish r.total)
        { r with graph := r.graph.add ⟨tag, content []⟩ } =
        .ok (as, { r with tokens := rest, graph := g }) ∧
      (r.graph.add ⟨tag, content []⟩).Grows g ∧
      List.Forall₂ (R g (r.graph.add ⟨tag, content []⟩).size) as bs :=
    flowParts_cut hpart hfinish h htokens htotal
  rw [Graph.size_add] at has
  refine ⟨as, g, ?_, hgrows, ?_⟩
  · have hadd : add ⟨tag, content []⟩ r =
        .ok (r.graph.size, { r with graph := r.graph.add ⟨tag, content []⟩ }) := rfl
    have hname : name none r.graph.size { r with graph := r.graph.add ⟨tag, content []⟩ } =
        .ok ((), { r with graph := r.graph.add ⟨tag, content []⟩ }) := rfl
    rw [collection, bind_eq hadd, bind_eq hname, bind_eq hread]
    rfl
  · exact hpart.keepAll has (Nat.le_refl _) (Graph.keepsFrom_fill (Nat.lt_succ_self _) _)

end

/-! ### Nodes -/

variable (handles : Handles)

/-- Without properties a node is its content. -/
theorem node_eq (depth : Nat) (place : Place) (ht : Opens t) (hkey : t ≠ .key)
    (h : r.tokens = t :: ts) :
    node handles (depth + 1) place r = content (node handles depth) place ⟨none, none⟩ r := by
  obtain ⟨tokens, total, anchors, graph⟩ := r
  cases h
  rw [node]
  cases ht with
  | key => exact absurd rfl hkey
  | scalar s => rfl
  | flowSequence => rfl
  | flowMapping => rfl

theorem content_scalar (item : Place → Part Nat) (place : Place) {s : Scalar}
    (h : r.tokens = .scalar s :: ts) : content item place ⟨none, none⟩ r =
      .ok (r.graph.size, { r with
        tokens := ts
        graph := r.graph.add ⟨Properties.scalarTag ⟨none, none⟩ s, .scalar s⟩ }) := by
  obtain ⟨tokens, total, anchors, graph⟩ := r
  cases h
  cases place <;> rfl

theorem content_sequence (item : Place → Part Nat) (place : Place)
    (h : r.tokens = .flowSequence :: ts) : content item place ⟨none, none⟩ r =
      collection none .seq .sequence
        (skip >>= fun _ => flowParts (flowItem (item .flow)) .flowSequenceEnd r.total) r := by
  obtain ⟨tokens, total, anchors, graph⟩ := r
  cases h
  cases place <;> rfl

theorem content_mapping (item : Place → Part Nat) (place : Place)
    (h : r.tokens = .flowMapping :: ts) : content item place ⟨none, none⟩ r =
      collection none .map .mapping
        (skip >>= fun _ => flowParts (flowEntry (item .flow)) .flowMappingEnd r.total) r := by
  obtain ⟨tokens, total, anchors, graph⟩ := r
  cases h
  cases place <;> rfl

/-! ### Values -/

theorem isSimple_of_denotes {g : Graph} {i : Nat} {s : Scalar} {v : Json} (h : s.Denotes v) :
    Node.IsSimple g i ⟨Properties.scalarTag ⟨none, none⟩ s, .scalar s⟩ := by
  obtain ⟨a, hread, -⟩ := h i
  exact .scalar hread

/-- The tokens of a value begin a node. -/
theorem head_of_cut {depth : Nat} {us : List Token} {v : Json} (h : cut depth us v) :
    ∃ t ts, us = t :: ts ∧ Opens t ∧ t ≠ .key := by
  rcases depth with _ | depth
  · exact h.elim
  · rcases h with ⟨s, rfl, -⟩ | h | h
    · exact ⟨_, _, rfl, .scalar s, nofun⟩
    · obtain ⟨h⟩ := h
      obtain ⟨ts, rfl⟩ := h.head
      exact ⟨_, _, rfl, .flowSequence, nofun⟩
    · obtain ⟨h⟩ := h
      obtain ⟨ts, rfl⟩ := h.head
      exact ⟨_, _, rfl, .flowMapping, nofun⟩

section

variable {depth room : Nat} {item : Part Nat}

/-- Between brackets a value is an item. -/
theorem flowItem_reads (hitem : Reads item (cut depth) fun g => TellsItem (g.Tells depth)) :
    Reads (flowItem item) (cut depth) fun g => TellsItem (g.Tells depth) where
  head := hitem.head
  keep := hitem.keep
  read {us v} h r rest htokens htotal := by
    have hflow : flowItem item r = item r := by
      obtain ⟨t, ts, rfl, ht, hkey⟩ := head_of_cut h
      rw [flowItem, bind_eq (head_eq htokens ht.fault?)]
      cases ht with
      | key => exact absurd rfl hkey
      | scalar s => rfl
      | flowSequence => rfl
      | flowMapping => rfl
    rw [hflow]
    exact hitem.read h htokens htotal

/-- An item in front of none of the tokens `ends`. -/
theorem orEmpty_eq {ends : List Token} (ht : t.fault? = none) (hends : ends.contains t = false)
    (h : r.tokens = t :: ts) : orEmpty item ends r = item r := by
  rw [orEmpty, bind_eq (head_eq h ht)]
  dsimp only
  rw [hends, if_neg Bool.false_ne_true]

/-- A string in front of a colon is the key of an entry. -/
theorem key_eq (room : Nat) {name : List Char}
    (h : r.tokens = .scalar (.ofText name) :: .value :: ts) :
    orEmpty (node handles (room + 1) .flow) [.value, .comma, .flowMappingEnd] r =
      .ok (r.graph.size, { r with
        tokens := .value :: ts
        graph := r.graph.add ⟨.str, .scalar (.ofText name)⟩ }) := by
  rw [orEmpty_eq rfl rfl h, node_eq handles room .flow (.scalar _) nofun h, content_scalar _ _ h]
  rfl

/-- The value of an entry is the node behind the colon. -/
theorem value_eq {us : List Token} {v : Json} (hv : cut depth us v)
    (h : r.tokens = .value :: (us ++ rest)) :
    valueOrEmpty item [.comma, .flowMappingEnd] r = item { r with tokens := us ++ rest } := by
  obtain ⟨t, us, rfl, ht, -⟩ := head_of_cut hv
  rw [valueOrEmpty, bind_eq (head_eq h rfl)]
  dsimp only
  rw [bind_eq (skip_eq h), orEmpty_eq ht.fault? (by cases ht <;> rfl) rfl]

/-- Between braces a key and a value are an entry. -/
theorem flowEntry_reads (hroom : depth ≤ room)
    (hitem : Reads (node handles room .flow) (cut depth) fun g => TellsItem (g.Tells depth)) :
    Reads (flowEntry (node handles room .flow)) (CutMember (cut depth)) fun g =>
      TellsMember (g.Tells depth) g where
  head := by
    rintro us m ⟨-⟩
    exact ⟨_, _, rfl, .key⟩
  keep h hlow hkeeps := ⟨⟨Nat.le_trans hlow h.before.1, Nat.le_trans hlow h.before.2⟩,
    hkeeps _ _ h.before.1 h.key, h.value.keep (hkeeps.mono h.before.2)⟩
  read := by
    rintro us m ⟨hvalue⟩ r rest htokens htotal
    rename_i ts name v
    have hpos : 0 < depth := Nat.pos_of_ne_zero (by rintro rfl; exact hvalue.elim)
    obtain ⟨room, rfl⟩ := Nat.exists_eq_add_one.2 (Nat.lt_of_lt_of_le hpos hroom)
    rw [List.cons_append, List.cons_append, List.cons_append] at htokens
    rw [htokens] at htotal
    obtain ⟨j, g, hread, hgrows, hlow, htells⟩ := hitem.read hvalue
      (r := { r with
        tokens := ts ++ rest
        graph := r.graph.add ⟨.str, .scalar (.ofText name.toList)⟩ }) rfl
      (Nat.le_of_succ_le (Nat.le_of_succ_le (Nat.le_of_succ_le htotal)))
    have hadd : r.graph.Grows (r.graph.add ⟨.str, .scalar (.ofText name.toList)⟩) :=
      Graph.grows_add (isSimple_of_denotes (Common.denotes_string name))
    rw [Graph.size_add] at hlow
    refine ⟨(r.graph.size, j), g, ?_, hadd.trans hgrows, ⟨⟨Nat.le_refl _, Nat.le_of_succ_le hlow⟩,
      hgrows.keeps _ _ (Nat.zero_le _) (Graph.getElem?_add _ _), htells⟩⟩
    rw [flowEntry, bind_eq (head_eq htokens rfl)]
    dsimp only
    rw [bind_eq (skip_eq htokens), bind_eq (key_eq handles room rfl),
      bind_eq ((value_eq hvalue rfl).trans hread)]
    rfl

end

/-- From the tokens of a value comes a node that tells the value. -/
theorem node_reads {depth room : Nat} (h : depth ≤ room) (place : Place) :
    Reads (node handles room place) (cut depth) fun g => TellsItem (g.Tells depth) := by
  induction depth generalizing room place with
  | zero => exact ⟨fun h => h.elim, fun h => h.2.elim, fun h => h.elim⟩
  | succ depth ih =>
    obtain ⟨room, rfl⟩ := Nat.exists_eq_add_one.2 (Nat.lt_of_succ_le (Nat.le_trans (by simp) h))
    have hroom := Nat.le_of_succ_le_succ h
    have hitem := ih hroom .flow
    refine ⟨fun h => ?_,
      fun h hlow hkeeps => ⟨Nat.le_trans hlow h.1, h.2.keep (hkeeps.mono h.1)⟩, ?_⟩
    · obtain ⟨t, ts, hts, ht, -⟩ := head_of_cut h
      exact ⟨t, ts, hts, ht⟩
    · intro us v h r rest htokens htotal
      obtain ⟨t, ts, hts, ht, hkey⟩ := head_of_cut h
      rw [node_eq handles room place ht hkey (htokens.trans (congrArg (· ++ rest) hts))]
      rcases h with ⟨s, rfl, hs⟩ | h | h
      · exact ⟨_, _, content_scalar _ _ htokens, Graph.grows_add (isSimple_of_denotes hs),
          Nat.le_refl _, .scalar (Graph.getElem?_add _ _) hs⟩
      · obtain ⟨h⟩ := h
        obtain ⟨us, rfl⟩ := h.head
        obtain ⟨items, g, hread, hgrows, hitems⟩ :=
          collection_cut (flowItem_reads hitem) .sequence h htokens htotal .seq .sequence
        have hnode := hgrows.keeps _ _ (Nat.zero_le _) (Graph.getElem?_add _ _)
        exact ⟨_, _, (content_sequence _ _ htokens).trans hread, Graph.grows_fill (fun _ => by simp)
          hgrows (fun _ => .sequence (by simp)) (fun _ => Graph.isSimple_of_items hitems),
          Nat.le_refl _, .list (Graph.getElem?_fill hnode _) hitems⟩
      · obtain ⟨h⟩ := h
        obtain ⟨us, rfl⟩ := h.head
        obtain ⟨es, g, hread, hgrows, hes⟩ := collection_cut
          (flowEntry_reads handles hroom hitem) .mapping h htokens htotal .map .mapping
        have hnode := hgrows.keeps _ _ (Nat.zero_le _) (Graph.getElem?_add _ _)
        exact ⟨_, _, (content_mapping _ _ htokens).trans hread, Graph.grows_fill (fun _ => by simp)
          hgrows (fun _ => .mapping (by simp) (by simp)) (fun _ => Graph.isSimple_of_members hes),
          Nat.le_refl _, .object (Graph.getElem?_fill hnode _) hes⟩

/-! ### Documents -/

theorem finish_nil (h : r.tokens = []) : finish r = .ok ((), r) := by
  have htotal : total r = .ok (r.total, r) := rfl
  have hends : skipEnds r.total r = .ok ((), r) := by
    rcases r.total with _ | rounds
    · rfl
    · rw [skipEnds, bind_eq (head_nil h)]
      rfl
  rw [finish, bind_eq htotal, bind_eq hends, bind_eq (head_nil h)]
  rfl

/-- A document that nothing announces is its node. -/
theorem document_eq [Interpreter] (ht : Opens t) (h : r.tokens = t :: ts) : document r =
    (node Handles.usual Interpreter.documentDepth .block >>= fun root =>
      finish >>= fun _ => pure (some root)) r := by
  rw [document, bind_eq (head_eq h ht.fault?)]
  cases ht <;> rfl

end Part

/-- The tokens of a value are those of a document that is a simple graph and tells the value. -/
theorem ofTokens_cut [Interpreter] {ts : List Token} {v : Json}
    (h : Common.cut Interpreter.documentDepth ts v) :
    ∃ g root, Graph.ofTokens ts = .ok (g, some root) ∧ g.IsSimple ∧
      g.Tells Interpreter.documentDepth root v := by
  obtain ⟨t, us, rfl, ht, -⟩ := Part.head_of_cut h
  obtain ⟨root, g, hread, hgrows, -, htells⟩ := (Part.node_reads Handles.usual (Nat.le_refl _)
    .block).read h (r := ⟨t :: us, (t :: us).length, [], ⟨#[]⟩⟩) (List.append_nil _).symm
    (Nat.le_refl _)
  have hempty : Graph.IsSimple ⟨#[]⟩ := nofun
  refine ⟨g, root, ?_, hgrows.simple hempty, htells⟩
  have hroot : Part.document ⟨t :: us, (t :: us).length, [], ⟨#[]⟩⟩ =
      .ok (some root, ⟨[], (t :: us).length, [], g⟩) := by
    rw [Part.document_eq ht rfl, Part.bind_eq hread, Part.bind_eq (Part.finish_nil rfl)]
    rfl
  change (Part.document ⟨t :: us, (t :: us).length, [], ⟨#[]⟩⟩).map _ = _
  rw [hroot]
  rfl

end ClientScribe.Yaml
