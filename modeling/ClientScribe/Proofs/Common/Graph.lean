import ClientScribe.Proofs.Common.Scalar
import ClientScribe.Proofs.Yaml.Simple

/-!
Graphs of nodes that tell JSON values.  While a document is read its graph grows: nodes are added
behind those there are, and a collection is filled once the nodes inside it are there.  What the
nodes behind a place tell depends on no node before it.
-/

namespace ClientScribe.Yaml

variable {g g' g'' : Graph} {i j low low' : Nat} {n : Node} {v : Json}

namespace Graph

/-! ### Growth -/

/-- The nodes from `low` on stay as they are. -/
def KeepsFrom (low : Nat) (g g' : Graph) : Prop :=
  ∀ j n, low ≤ j → g.nodes[j]? = some n → g'.nodes[j]? = some n

theorem KeepsFrom.trans (h : KeepsFrom low g g') (h' : KeepsFrom low g' g'') :
    KeepsFrom low g g'' := fun j n hj hn => h' j n hj (h j n hj hn)

theorem KeepsFrom.mono (h : KeepsFrom low g g') (hlow : low ≤ low') : KeepsFrom low' g g' :=
  fun j n hj hn => h j n (Nat.le_trans hlow hj) hn

theorem KeepsFrom.size_le (h : KeepsFrom 0 g g') : g.size ≤ g'.size := by
  by_contra hlt
  obtain ⟨n, hn⟩ := exists_getElem?_of_lt (Nat.lt_of_not_le hlt)
  exact absurd (lt_size_of_getElem? (h _ n (Nat.zero_le _) hn)) (Nat.lt_irrefl _)

theorem getElem?_add (g : Graph) (n : Node) : (g.add n).nodes[g.size]? = some n := by
  simp [add, size]

theorem getElem?_add_of_ne (hj : j ≠ g.size) (n : Node) : (g.add n).nodes[j]? = g.nodes[j]? :=
  Array.getElem?_push.trans (if_neg hj)

theorem keepsFrom_add (g : Graph) (n : Node) : KeepsFrom 0 g (g.add n) := fun _ _ _ hm =>
  (getElem?_add_of_ne (Nat.ne_of_lt (lt_size_of_getElem? hm)) n).trans hm

theorem getElem?_fill (hn : g.nodes[i]? = some n) (content : Content) :
    (g.fill i content).nodes[i]? = some { n with content } := by
  simp [fill, Array.getElem?_modify, hn]

theorem getElem?_fill_of_ne (hij : j ≠ i) (content : Content) :
    (g.fill i content).nodes[j]? = g.nodes[j]? := by
  simp [fill, Array.getElem?_modify, hij.symm]

theorem keepsFrom_fill (hi : i < low) (content : Content) : KeepsFrom low g (g.fill i content) :=
  fun j n hj hn => by rwa [getElem?_fill_of_ne (by omega)]

/-- Nodes were added, and a simple graph is still simple. -/
structure Grows (g g' : Graph) : Prop where
  keeps : KeepsFrom 0 g g'
  simple : g.IsSimple → g'.IsSimple

theorem Grows.trans (h : g.Grows g') (h' : g'.Grows g'') : g.Grows g'' :=
  ⟨h.keeps.trans h'.keeps, h'.simple ∘ h.simple⟩

theorem isSimple_of_keeps (h : Node.IsSimple g i n) (hkeeps : KeepsFrom 0 g g') :
    Node.IsSimple g' i n := by
  have hsize := hkeeps.size_le
  cases h with
  | scalar hread => exact .scalar hread
  | sequence hinside =>
    exact .sequence fun j hj => ⟨(hinside j hj).1, Nat.lt_of_lt_of_le (hinside j hj).2 hsize⟩
  | mapping hkeys hinside =>
    refine .mapping (fun e he => ?_) fun e he => ?_
    · obtain ⟨s, hs⟩ := hkeys e he
      exact ⟨s, hkeeps _ _ (Nat.zero_le _) hs⟩
    · obtain ⟨hk, hv, hlt⟩ := hinside e he
      exact ⟨hk, hv, Nat.lt_of_lt_of_le hlt hsize⟩

theorem grows_add (hn : Node.IsSimple (g.add n) g.size n) : g.Grows (g.add n) := by
  refine ⟨keepsFrom_add g n, fun hg j m hm => ?_⟩
  by_cases hj : j = g.size
  · subst hj
    rw [getElem?_add] at hm
    cases hm
    exact hn
  · rw [getElem?_add_of_ne hj] at hm
    exact isSimple_of_keeps (hg j m hm) (keepsFrom_add g n)

/-- The nodes of a collection are there; now it is filled. -/
theorem grows_fill {tag : Tag} {hollow content : Content} (hhollow : ∀ s, hollow ≠ .scalar s)
    (hadded : (g.add ⟨tag, hollow⟩).Grows g')
    (hempty : ∀ g' : Graph, Node.IsSimple g' g.size ⟨tag, hollow⟩)
    (hfilled : g'.IsSimple → Node.IsSimple (g'.fill g.size content) g.size ⟨tag, content⟩) :
    g.Grows (g'.fill g.size content) := by
  have hnode : g'.nodes[g.size]? = some ⟨tag, hollow⟩ :=
    hadded.keeps _ _ (Nat.zero_le _) (getElem?_add g _)
  constructor
  · intro j m _ hm
    have hj := lt_size_of_getElem? hm
    rw [getElem?_fill_of_ne (Nat.ne_of_lt hj)]
    exact hadded.keeps j m (Nat.zero_le _) (keepsFrom_add g _ j m (Nat.zero_le _) hm)
  · intro hg j m hm
    have hg' : g'.IsSimple := hadded.simple ((grows_add (hempty _)).simple hg)
    by_cases hj : j = g.size
    · subst hj
      rw [getElem?_fill hnode] at hm
      cases hm
      exact hfilled hg'
    · rw [getElem?_fill_of_ne hj] at hm
      cases hg' j m hm with
      | scalar hread => exact .scalar hread
      | sequence hinside => exact .sequence fun k hk => by simpa using hinside k hk
      | mapping hkeys hinside =>
        refine .mapping (fun e he => ?_) fun e he => by simpa using hinside e he
        -- a key is a scalar, so it is not what is filled
        obtain ⟨s, hs⟩ := hkeys e he
        refine ⟨s, ?_⟩
        rwa [getElem?_fill_of_ne]
        intro heq
        rw [heq, hnode] at hs
        exact hhollow s (congrArg Node.content (Option.some.inj hs))

/-! ### What nodes tell -/

section

variable (T : Nat → Json → Prop)

/-- A node behind `low` that tells a value. -/
def TellsItem (low j : Nat) (v : Json) : Prop := low ≤ j ∧ T j v

/-- An entry behind `low` that tells a member. -/
structure TellsMember (g : Graph) (low : Nat) (e : Nat × Nat) (m : String × Json) : Prop where
  before : low ≤ e.1 ∧ low ≤ e.2
  key : g.nodes[e.1]? = some ⟨.str, .scalar (.ofText m.1.toList)⟩
  value : T e.2 m.2

/-- The node `i` tells a value, where `T` says what the nodes inside it tell. -/
inductive TellsWith (g : Graph) (i : Nat) : Json → Prop
  | scalar {s : Scalar} {v : Json} (node : g.nodes[i]? = some ⟨Properties.scalarTag ⟨none, none⟩ s,
    .scalar s⟩) (denotes : s.Denotes v) : TellsWith g i v
  | list {items : List Nat} {vs : List Json} (node : g.nodes[i]? = some ⟨.seq, .sequence items⟩)
    (parts : List.Forall₂ (TellsItem T (i + 1)) items vs) : TellsWith g i (.arr vs)
  | object {es : List (Nat × Nat)} {ms : Json.Members}
    (node : g.nodes[i]? = some ⟨.map, .mapping es⟩)
    (parts : List.Forall₂ (TellsMember T g (i + 1)) es ms) :
    TellsWith g i (.obj (Json.override [] ms))

end

/-- The node `i` tells a value with no more than `depth` values inside each other. -/
def Tells (g : Graph) : (depth : Nat) → (i : Nat) → Json → Prop
  | 0 => fun _ _ => False
  | depth + 1 => TellsWith (g.Tells depth) g

/-- What a node tells depends on no node before it. -/
theorem Tells.keep {depth : Nat} (h : g.Tells depth i v) (hkeeps : KeepsFrom i g g') :
    g'.Tells depth i v := by
  induction depth generalizing i v with
  | zero => exact h
  | succ depth ih =>
    cases h with
    | scalar hnode hdenotes => exact .scalar (hkeeps _ _ (Nat.le_refl _) hnode) hdenotes
    | list hnode hparts =>
      refine .list (hkeeps _ _ (Nat.le_refl _) hnode) (hparts.imp fun j w hj => ⟨hj.1, ?_⟩)
      exact ih hj.2 (hkeeps.mono (Nat.le_of_succ_le hj.1))
    | object hnode hparts =>
      refine .object (hkeeps _ _ (Nat.le_refl _) hnode)
        (hparts.imp fun e m he => ⟨he.before, ?_, ?_⟩)
      · exact hkeeps _ _ (Nat.le_of_succ_le he.before.1) he.key
      · exact ih he.value (hkeeps.mono (Nat.le_of_succ_le he.before.2))

theorem Tells.lt_size {depth : Nat} (h : g.Tells depth i v) : i < g.size := by
  cases depth with
  | zero => exact h.elim
  | succ depth =>
    cases h with
    | scalar hnode => exact lt_size_of_getElem? hnode
    | list hnode => exact lt_size_of_getElem? hnode
    | object hnode => exact lt_size_of_getElem? hnode

/-! ### Filled collections are simple -/

variable {depth : Nat}

theorem isSimple_of_items {items : List Nat} {vs : List Json}
    (h : List.Forall₂ (TellsItem (g.Tells depth) (i + 1)) items vs) :
    Node.IsSimple g i ⟨.seq, .sequence items⟩ := by
  have hinside := (List.forall₂_and_left (p := fun j => i < j ∧ j < g.size) _ _).1
    (h.imp fun j w hj => ⟨⟨hj.1, hj.2.lt_size⟩, hj⟩)
  exact .sequence hinside.1

theorem isSimple_of_members {es : List (Nat × Nat)} {ms : Json.Members}
    (h : List.Forall₂ (TellsMember (g.Tells depth) g (i + 1)) es ms) :
    Node.IsSimple g i ⟨.map, .mapping es⟩ := by
  have hkeys := (List.forall₂_and_left (p := fun e => ∃ s, g.nodes[e.1]? = some ⟨.str, .scalar s⟩)
    _ _).1 (h.imp fun e m he => ⟨⟨_, he.key⟩, he⟩)
  have hinside := (List.forall₂_and_left (p := fun e => i < e.1 ∧ i < e.2 ∧ e.2 < g.size) _ _).1
    (h.imp fun e m he => ⟨⟨he.before.1, he.before.2, he.value.lt_size⟩, he⟩)
  exact .mapping hkeys.1 hinside.1

end Graph

end ClientScribe.Yaml
