import ClientScribe.Proofs.Yaml.Cut
import ClientScribe.Yaml.Build
import Mathlib.Data.Option.Defs

/-!
What can go wrong when nodes get their values.  Apart from nodes that break the rules, there are
scalars that are taken for a number, a flag or a date and are none, and mappings that are taken for
a scalar.
-/

namespace ClientScribe.Yaml

/-- Why a node of a graph has no value. -/
inductive ConstructFault (g : Graph) : Fault → Prop
  | malformed : ConstructFault g .malformed
  /-- A scalar has no value under its tag, or none that a mapping can take over. -/
  | scalar {i j : Nat} {n m : Node} {s : Scalar} {fault : Fault} (node : g.nodes[i]? = some n)
    (atomic : n.tag.isAtomic = true) (source : g.nodes[j]? = some m) (text : m.content = .scalar s)
    (own : j = i ∨ ∃ es, n.content = .mapping es)
    (unread : Atom.read i n.tag s.text = .error fault) : ConstructFault g fault
  /-- The scalar that a mapping stands for is looked for in a circle. -/
  | circle {i : Nat} {n : Node} {es : List (Nat × Nat)} (node : g.nodes[i]? = some n)
    (atomic : n.tag.isAtomic = true ∨ n.tag = .value) (mapping : n.content = .mapping es) :
    ConstructFault g .endless
  /-- A mapping is taken for a date. -/
  | moment {i : Nat} {n : Node} {es : List (Nat × Nat)} (node : g.nodes[i]? = some n)
    (tag : n.tag = .timestamp) (mapping : n.content = .mapping es) :
    ConstructFault g .momentInMapping

/-! ### Graphs while they are merged -/

/-- What merging makes of a node: a key that elsewhere stands for its mapping is taken for a text,
and a mapping has other entries. -/
structure Node.Becomes (n n' : Node) : Prop where
  tag : n'.tag = n.tag ∨ n.tag = .value ∧ n'.tag = .str
  content : n'.content = n.content
    ∨ ∃ es es', n.content = .mapping es ∧ n'.content = .mapping es'

/-- What merging makes of a graph. -/
def Graph.Becomes (g g' : Graph) : Prop :=
  ∀ i : Nat, Option.Rel Node.Becomes g.nodes[i]? g'.nodes[i]?

theorem Node.Becomes.refl (n : Node) : n.Becomes n := ⟨.inl rfl, .inl rfl⟩

theorem Node.Becomes.trans {n n' n'' : Node} (h : n.Becomes n') (h' : n'.Becomes n'') :
    n.Becomes n'' where
  tag := by
    rcases h'.tag with e | ⟨e, e'⟩
    · rw [e]
      exact h.tag
    · rcases h.tag with e'' | ⟨-, hstr⟩
      · exact .inr ⟨e''.symm.trans e, e'⟩
      · exact absurd (hstr.symm.trans e) (by decide)
  content := by
    rcases h'.content with e | ⟨es, es', hes, hes'⟩
    · rw [e]
      exact h.content
    · rcases h.content with e | ⟨fs, -, hfs, -⟩
      · exact .inr ⟨es, es', e ▸ hes, hes'⟩
      · exact .inr ⟨fs, es', hfs, hes'⟩

namespace Graph

variable {g g' g'' : Graph} {i : Nat}

theorem Becomes.refl (g : Graph) : g.Becomes g := by
  intro i
  cases g.nodes[i]? with
  | none => exact .none
  | some n => exact .some (.refl n)

theorem Becomes.trans (h : g.Becomes g') (h' : g'.Becomes g'') : g.Becomes g'' := by
  intro i
  have hi := h i
  have hi' := h' i
  revert hi hi'
  generalize g.nodes[i]? = a
  generalize g'.nodes[i]? = b
  generalize g''.nodes[i]? = c
  rintro (h | h) (h' | h')
  · exact .some (h.trans h')
  · exact .none

theorem becomes_modify {f : Node → Node}
    (hf : ∀ n, g.nodes[i]? = some n → n.Becomes (f n)) : g.Becomes ⟨g.nodes.modify i f⟩ := by
  intro j
  rw [Array.getElem?_modify]
  split
  · rename_i hij
    subst hij
    cases hn : g.nodes[i]? with
    | none => exact .none
    | some n => exact .some (hf n hn)
  · exact Becomes.refl g j

theorem becomes_retag (h : g.tag? i = some .value) : g.Becomes (g.retag i .str) :=
  becomes_modify fun n hn => by
    rw [tag?, hn] at h
    exact ⟨.inr ⟨Option.some.inj h, rfl⟩, .inl rfl⟩

theorem content?_eq_of_entries? {es : List (Nat × Nat)} (h : g.entries? i = some es) :
    g.content? i = some (.mapping es) := by
  unfold entries? at h
  split at h
  · rw [← Option.some.inj h]
    assumption
  · exact absurd h (by simp)

theorem becomes_fill {es : List (Nat × Nat)} (h : (g.entries? i).isSome = true) :
    g.Becomes (g.fill i (.mapping es)) := by
  obtain ⟨fs, hfs⟩ := Option.isSome_iff_exists.1 h
  refine becomes_modify fun n hn => ⟨.inl rfl, .inr ⟨fs, es, ?_, rfl⟩⟩
  have hcontent := content?_eq_of_entries? hfs
  rw [content?, hn] at hcontent
  exact Option.some.inj hcontent

theorem becomes_nameKeys (es : List (Nat × Nat)) : g.Becomes (nameKeys g es) := by
  induction es generalizing g with
  | nil => exact .refl g
  | cons e es ih =>
    obtain ⟨k, v⟩ := e
    rw [nameKeys]
    split
    · exact (becomes_retag ‹_›).trans ih
    · exact ih

theorem Becomes.isSome_entries? (h : g.Becomes g') (i : Nat) :
    (g'.entries? i).isSome = (g.entries? i).isSome := by
  have hi := h i
  rw [entries?, content?, entries?, content?]
  revert hi
  generalize g.nodes[i]? = a
  generalize g'.nodes[i]? = b
  rintro (hbecomes | _)
  · rcases hbecomes.content with e | ⟨es, es', h, h'⟩
    · simp only [Option.map_some, e]
    · simp only [Option.map_some, h, h', Option.isSome_some]
  · rfl

theorem ends_foldlM {α β : Type} {P : Fault → Prop} {Q : β → Prop} {f : β → α → Except Fault β}
    {as : List α} {b : β} (hb : Q b) (hf : ∀ b a, Q b → Ends P Q (f b a)) :
    Ends P Q (as.foldlM f b) := by
  induction as generalizing b with
  | nil => exact hb
  | cons a as ih =>
    rw [List.foldlM_cons]
    exact (hf b a hb).bind fun b hb => ih hb

/-- Merging succeeds, or the nodes break the rules. -/
theorem ends_mergeInto (room : Nat) (taken : List (Nat × Nat)) (hi : (g.entries? i).isSome = true) :
    Ends (· = .malformed) (g.Becomes ·) (mergeInto room taken g i) := by
  induction room generalizing g i taken with
  | zero =>
    unfold mergeInto
    exact (becomes_fill hi).trans (becomes_nameKeys _)
  | succ room ih =>
    unfold mergeInto
    dsimp only
    split
    · rename_i heq _
      obtain rfl := Nat.succ.inj heq
      have hone (merged : Graph × List (Nat × Nat)) (j : Nat) (hmerged : g.Becomes merged.1) :
          Ends (· = .malformed) (fun q => g.Becomes q.1) (if (merged.1.entries? j).isNone then do
              throw .malformed
              let g ← mergeInto room [] merged.1 j
              pure (g, (g.entries? j).getD [] ++ merged.2)
            else do
              let g ← mergeInto room [] merged.1 j
              pure (g, (g.entries? j).getD [] ++ merged.2) : Except Fault _) := by
        split
        · rfl
        · rename_i hj
          rw [Option.isNone_iff_eq_none, ← ne_eq, Option.ne_none_iff_isSome] at hj
          exact (ih [] hj).bind fun g' hg' => hmerged.trans hg'
      have hagain (q : Graph × List (Nat × Nat)) (hq : g.Becomes q.1) :
          Ends (· = .malformed) (g.Becomes ·) (mergeInto room (taken ++ q.2) q.1 i) :=
        (ih _ (hq.isSome_entries? i ▸ hi)).imp (fun _ h => h) fun _ h => hq.trans h
      split
      · exact (ends_foldlM (Q := fun q => g.Becomes q.1) (becomes_fill hi) hone).bind hagain
      · exact (hone (_, []) _ (becomes_fill hi)).bind hagain
    · exact (becomes_fill hi).trans (becomes_nameKeys _)

/-! ### Values of scalars -/

/-- The scalar that a node is or stands for is one of the graph, unless there is none. -/
theorem ends_scalarText (room : Nat) (i : Nat) :
    Ends (fun fault => fault = .malformed ∨ fault = .endless)
      (fun text => ∃ j s, g.content? j = some (.scalar s) ∧ s.text = text)
      (g.scalarText room i) := by
  induction room generalizing i with
  | zero =>
    unfold scalarText
    split
    · exact ⟨i, _, ‹_›, rfl⟩
    · exact .inr rfl
    · rename_i heq _
      exact absurd heq.symm (Nat.succ_ne_zero _)
    · exact .inl rfl
  | succ room ih =>
    unfold scalarText
    split
    · exact ⟨i, _, ‹_›, rfl⟩
    · rename_i heq _
      exact absurd heq (Nat.succ_ne_zero _)
    · rename_i heq _
      obtain rfl := Nat.succ.inj heq
      split
      · exact ih _
      · exact .inl rfl
    · exact .inl rfl

theorem scalarText_scalar {s : Scalar} (h : g.content? i = some (.scalar s)) (room : Nat) :
    g.scalarText room i = .ok s.text := by
  rw [scalarText.eq_def, h]

theorem scalarText_sequence {items : List Nat} (h : g.content? i = some (.sequence items))
    (room : Nat) : g.scalarText (room + 1) i = .error .malformed := by
  unfold scalarText
  simp only [h]

theorem content?_of_getElem? {n : Node} (h : g.nodes[i]? = some n) :
    g.content? i = some n.content := by rw [content?, h, Option.map_some]

theorem getElem?_of_content? {content : Content} (h : g.content? i = some content) :
    ∃ n, g.nodes[i]? = some n ∧ n.content = content := Option.map_eq_some_iff.1 h

/-- A node has a value, or it shows why it has none. -/
theorem ends_atom (g : Graph) (i : Nat) : Ends (ConstructFault g) (fun _ => True) (g.atom i) := by
  unfold atom
  split
  · exact .malformed
  · rename_i n hn
    split
    · exact .malformed
    · rename_i hatomic
      rw [Bool.not_eq_true', Bool.not_eq_false] at hatomic
      obtain ⟨size, hsize⟩ : ∃ size, g.size = size + 1 := by
        obtain ⟨hlt, -⟩ := Array.getElem?_eq_some_iff.1 hn
        exact Nat.exists_eq_succ_of_ne_zero (Nat.ne_of_gt (Nat.lt_of_le_of_lt (Nat.zero_le i) hlt))
      have hread {j : Nat} {m : Node} {s : Scalar} (hm : g.nodes[j]? = some m)
          (hs : m.content = .scalar s) (hown : j = i ∨ ∃ es, n.content = .mapping es) :
          Ends (ConstructFault g) (fun _ => True)
            (if n.tag = .timestamp && (g.entries? i).isSome then .error .momentInMapping
              else Atom.read i n.tag s.text) := by
        split
        · rename_i hmoment
          rw [Bool.and_eq_true, decide_eq_true_eq] at hmoment
          obtain ⟨es, hes⟩ := Option.isSome_iff_exists.1 hmoment.2
          have hcontent := content?_eq_of_entries? hes
          rw [content?_of_getElem? hn] at hcontent
          exact .moment hn hmoment.1 (Option.some.inj hcontent)
        · cases hatom : Atom.read i n.tag s.text with
          | error fault => exact .scalar hn hatomic hm hs hown hatom
          | ok a => trivial
      have hthen (text : List Char) : (do
            if n.tag = .timestamp && (g.entries? i).isSome then throw .momentInMapping
            Atom.read i n.tag text : Except Fault Atom) =
          if n.tag = .timestamp && (g.entries? i).isSome then .error .momentInMapping
          else Atom.read i n.tag text := by
        split <;> rfl
      simp only [hthen]
      cases hcontent : n.content with
      | mapping es =>
        have hblame (fault : Fault) (h : fault = .malformed ∨ fault = .endless) :
            ConstructFault g fault := by
          rcases h with rfl | rfl
          · exact .malformed
          · exact .circle hn (.inl hatomic) hcontent
        refine ((ends_scalarText g.size i).imp hblame fun _ h => h).bind ?_
        · rintro text ⟨j, s, hj, rfl⟩
          obtain ⟨m, hm, hs⟩ := getElem?_of_content? hj
          exact hread hm hs (.inr ⟨es, hcontent⟩)
      | scalar s =>
        rw [scalarText_scalar (hcontent ▸ content?_of_getElem? hn)]
        exact hread hn hcontent (.inl rfl)
      | sequence items =>
        rw [hsize, scalarText_sequence (hcontent ▸ content?_of_getElem? hn)]
        exact .malformed

/-- What is wrong in a graph that has been merged was wrong before. -/
theorem Becomes.constructFault {fault : Fault} (h : g.Becomes g')
    (hfault : ConstructFault g' fault) : ConstructFault g fault := by
  have hback {i : Nat} {n' : Node} (hn' : g'.nodes[i]? = some n') :
      ∃ n, g.nodes[i]? = some n ∧ n.Becomes n' := by
    have hi := h i
    rw [hn'] at hi
    cases hn : g.nodes[i]? with
    | none =>
      rw [hn] at hi
      exact absurd hi (by rintro ⟨⟩)
    | some n =>
      rw [hn] at hi
      cases hi with
      | some hi => exact ⟨n, rfl, hi⟩
  have hmapping {n n' : Node} {es : List (Nat × Nat)} (hn : n.Becomes n')
      (hes : n'.content = .mapping es) : ∃ es', n.content = .mapping es' := by
    rcases hn.content with e | ⟨es', -, hes', -⟩
    · exact ⟨es, e ▸ hes⟩
    · exact ⟨es', hes'⟩
  cases hfault with
  | malformed => exact .malformed
  | scalar hi hatomic hj hs hown hread =>
    rename_i s
    obtain ⟨n, hn, hbecomes⟩ := hback hi
    obtain ⟨m, hm, hsource⟩ := hback hj
    have hs : m.content = .scalar s := by
      rcases hsource.content with e | ⟨_, es', -, hes'⟩
      · exact e ▸ hs
      · exact absurd (hs.symm.trans hes') (by simp)
    rcases hbecomes.tag with e | ⟨-, e⟩
    · refine .scalar hn (e ▸ hatomic) hm hs ?_ (e ▸ hread)
      exact hown.imp id fun ⟨_, hes⟩ => hmapping hbecomes hes
    · rw [e] at hread
      exact absurd hread (by simp [Atom.read])
  | circle hi hatomic hes =>
    obtain ⟨n, hn, hbecomes⟩ := hback hi
    obtain ⟨es', hes'⟩ := hmapping hbecomes hes
    refine .circle hn ?_ hes'
    rcases hbecomes.tag with e | ⟨e, -⟩
    · exact e ▸ hatomic
    · exact .inr e
  | moment hi htag hes =>
    obtain ⟨n, hn, hbecomes⟩ := hback hi
    obtain ⟨es', hes'⟩ := hmapping hbecomes hes
    rcases hbecomes.tag with e | ⟨-, e⟩
    · exact .moment hn (e ▸ htag) hes'
    · exact absurd (e.symm.trans htag) (by decide)

end Graph

/-! ### Building -/

namespace Build

variable {α β : Type} {g : Graph} {i : Nat}

/-- An action merges the graph `g` further, or shows why a node of it has no value. -/
def Keeps (g : Graph) (p : Build α) : Prop :=
  ∀ b, g.Becomes b.graph → Ends (ConstructFault g) (fun q => g.Becomes q.2.graph) (p b)

theorem Keeps.bind {p : Build α} {f : α → Build β} (hp : Keeps g p) (hf : ∀ a, Keeps g (f a)) :
    Keeps g (p >>= f) :=
  fun b hb => Ends.bind (hp b hb) fun q hq => hf q.1 q.2 hq

theorem keeps_pure (a : α) : Keeps g (pure a) := fun _ hb => hb

theorem keeps_malformed : Keeps g (malformed : Build α) := fun _ _ => ConstructFault.malformed

/-- What an action does may depend on the graph there is. -/
theorem keeps_get {f : Building → Build β} (hf : ∀ b, g.Becomes b.graph → Keeps g (f b)) :
    Keeps g (get >>= f) := fun b hb => hf b hb b hb

theorem keeps_modify {f : Building → Building}
    (hf : ∀ b, g.Becomes b.graph → g.Becomes (f b).graph) : Keeps g (modify f) :=
  fun b hb => hf b hb

theorem keeps_lift {x : Except Fault α} {Q : α → Prop} {f : α → Build β}
    (hx : Ends (ConstructFault g) Q x) (hf : ∀ a, Q a → Keeps g (f a)) :
    Keeps g (liftM x >>= f) := by
  intro b hb
  cases x with
  | error fault => exact hx
  | ok a => exact hf a hx b hb

theorem keeps_value? (i : Nat) : Keeps g (value? i) := keeps_get fun _ _ => keeps_pure _

theorem keeps_key (i : Nat) : Keeps g (key i) := by
  refine (keeps_value? i).bind fun v => ?_
  split
  · exact keeps_pure _
  · exact keeps_malformed

theorem keeps_set (i : Nat) (v : Value) : Keeps g (set i v) := keeps_modify fun _ hb => hb

theorem keeps_begin (i : Nat) : Keeps g (begin i) := by
  refine (keeps_value? i).bind fun v => ?_
  split
  · refine keeps_get fun b hb => ?_
    dsimp only
    split
    · exact (keeps_set i _).bind fun _ => keeps_modify fun _ hb => hb
    · refine keeps_lift (Q := fun _ => True) ?_ fun a _ => keeps_set i _
      exact (Graph.ends_atom _ i).imp (fun _ h => hb.constructFault h) fun _ h => h
  · exact keeps_pure _

theorem keeps_foldlM {f : β → α → Build β} (hf : ∀ b a, Keeps g (f b a)) (as : List α) (b : β) :
    Keeps g (as.foldlM f b) := by
  induction as generalizing b with
  | nil => exact keeps_pure b
  | cons a as ih =>
    rw [List.foldlM_cons]
    exact (hf b a).bind ih

theorem keeps_forM {f : α → Build Unit} (hf : ∀ a, Keeps g (f a)) (as : List α) :
    Keeps g (as.forM f) := by
  induction as with
  | nil => exact keeps_pure ()
  | cons a as ih => exact (hf a).bind fun _ => ih

theorem keeps_mapM {f : α → Build β} (hf : ∀ a, Keeps g (f a)) (as : List α) :
    Keeps g (as.mapM f) := by
  induction as with
  | nil => exact keeps_pure []
  | cons a as ih =>
    rw [List.mapM_cons]
    exact (hf a).bind fun _ => ih.bind fun _ => keeps_pure _

theorem keeps_members (hi : (g.entries? i).isSome = true) : Keeps g (members i) := by
  refine keeps_get fun b hb => ?_
  refine keeps_lift (Q := (g.Becomes ·)) ?_ fun g' hg' => ?_
  · refine (Graph.ends_mergeInto b.merges [] (hb.isSome_entries? i ▸ hi)).imp ?_
      fun _ h => hb.trans h
    rintro _ rfl
    exact .malformed
  · refine (keeps_modify fun _ _ => hg').bind fun _ => keeps_foldlM (fun es e => ?_) _ _
    exact (keeps_begin _).bind fun _ => (keeps_key _).bind fun _ => (keeps_begin _).bind fun _ =>
      keeps_pure _

theorem keeps_pairs (items : List Nat) : Keeps g (pairs items) := by
  refine keeps_mapM (fun i => keeps_get fun b _ => ?_) items
  split
  · exact (keeps_begin _).bind fun _ => (keeps_begin _).bind fun _ => keeps_pure _
  · exact keeps_malformed

theorem keeps_fill (i : Nat) : Keeps g (fill i) := by
  refine keeps_get fun b hb => (keeps_value? i).bind fun v => ?_
  have hmapping {es : List (Nat × Nat)} (h : b.graph.content? i = some (.mapping es)) :
      (g.entries? i).isSome = true := by
    rw [← hb.isSome_entries? i, Graph.entries?, h]
    rfl
  split
  · exact (keeps_forM keeps_begin _).bind fun _ => keeps_set i _
  · exact (keeps_members (hmapping ‹_›)).bind fun _ => keeps_set i _
  · exact (keeps_members (hmapping ‹_›)).bind fun _ => keeps_set i _
  · exact (keeps_pairs _).bind fun _ => keeps_set i _
  · exact keeps_malformed

theorem keeps_fillAll (rounds : Nat) : Keeps g (fillAll rounds) := by
  induction rounds with
  | zero => exact keeps_pure ()
  | succ rounds ih =>
    unfold fillAll
    refine keeps_get fun b _ => ?_
    split
    · exact keeps_pure ()
    · refine Keeps.bind (keeps_modify fun _ hb => ?_) fun _ =>
        (keeps_forM keeps_fill _).bind fun _ => ih
      exact hb

end Build

/-- A graph has the values of a document, or one of its nodes shows why not. -/
theorem constructFault_of_ofGraph {g : Graph} {root : Nat} {fault : Fault}
    (h : Document.ofGraph g root = .error fault) : ConstructFault g fault := by
  have hkeeps : Build.Keeps g (Build.begin root >>= fun _ => Build.fillAll g.size) :=
    (Build.keeps_begin root).bind fun _ => Build.keeps_fillAll _
  exact ((hkeeps _ (.refl g)).map (R := fun _ => True) fun _ _ => trivial).fault h

end ClientScribe.Yaml
