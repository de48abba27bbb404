import ClientScribe.Proofs.Yaml.Construct
import ClientScribe.Proofs.Yaml.Values
import Mathlib.Data.List.Forall2

/-!
Simple graphs: nothing is merged, a node stands in front of the nodes inside it, keys are texts, and
every scalar has a value.  Building gives each of their nodes the value that its content tells.
-/

namespace ClientScribe.Yaml

/-- What the node `i` of a simple graph is. -/
inductive Node.IsSimple (g : Graph) (i : Nat) : Node → Prop
  | scalar {tag : Tag} {s : Scalar} {a : Atom} (read : Atom.read i tag s.text = .ok a) :
    IsSimple g i ⟨tag, .scalar s⟩
  | sequence {items : List Nat} (inside : ∀ j ∈ items, i < j ∧ j < g.size) :
    IsSimple g i ⟨.seq, .sequence items⟩
  | mapping {es : List (Nat × Nat)}
    (keys : ∀ e ∈ es, ∃ s, g.nodes[e.1]? = some ⟨.str, .scalar s⟩)
    (inside : ∀ e ∈ es, i < e.1 ∧ i < e.2 ∧ e.2 < g.size) : IsSimple g i ⟨.map, .mapping es⟩

namespace Graph

def IsSimple (g : Graph) : Prop := ∀ i n, g.nodes[i]? = some n → Node.IsSimple g i n

/-- The text of a key. -/
def keyText (g : Graph) (k : Nat) : String :=
  match g.content? k with
  | some (.scalar s) => String.ofList s.text
  | _ => ""

/-- The members of a mapping, one for each key. -/
def members (g : Graph) (es : List (Nat × Nat)) : List Build.Member :=
  es.foldl (fun ms e => Build.put (.text (g.keyText e.1)) e.1 e.2 ms) []

/-- The value that the content of a node tells. -/
inductive Gives (g : Graph) (i : Nat) : Value → Prop
  | scalar {tag : Tag} {s : Scalar} {a : Atom} (node : g.nodes[i]? = some ⟨tag, .scalar s⟩)
    (read : Atom.read i tag s.text = .ok a) : Gives g i (.atom a)
  | sequence {items : List Nat} (node : g.nodes[i]? = some ⟨.seq, .sequence items⟩) :
    Gives g i (.list items)
  | mapping {es : List (Nat × Nat)} (node : g.nodes[i]? = some ⟨.map, .mapping es⟩) :
    Gives g i (.map ((g.members es).map Prod.snd))

/-- The nodes that the content of a node names. -/
inductive Inside (g : Graph) (i : Nat) : Nat → Prop
  | item {tag : Tag} {items : List Nat} {j : Nat} (node : g.nodes[i]? = some ⟨tag, .sequence items⟩)
    (mem : j ∈ items) : Inside g i j
  | key {tag : Tag} {es : List (Nat × Nat)} {e : Nat × Nat}
    (node : g.nodes[i]? = some ⟨tag, .mapping es⟩) (mem : e ∈ es) : Inside g i e.1
  | value {tag : Tag} {es : List (Nat × Nat)} {e : Nat × Nat}
    (node : g.nodes[i]? = some ⟨tag, .mapping es⟩) (mem : e ∈ es) : Inside g i e.2

variable {g : Graph} {i : Nat}

theorem lt_size_of_getElem? {n : Node} (h : g.nodes[i]? = some n) : i < g.size :=
  (Array.getElem?_eq_some_iff.1 h).1

theorem exists_getElem?_of_lt (h : i < g.size) : ∃ n, g.nodes[i]? = some n :=
  ⟨_, Array.getElem?_eq_some_iff.2 ⟨h, rfl⟩⟩

/-! ### Merging a simple graph -/

theorem IsSimple.not_special (hg : g.IsSimple) {tag : Tag} (h : g.tag? i = some tag) :
    tag ≠ .merge ∧ tag ≠ .value := by
  obtain ⟨n, hn, rfl⟩ := Option.map_eq_some_iff.1 h
  cases hg i n hn with
  | scalar hread => constructor <;> rintro rfl <;> cases hread
  | sequence => exact ⟨by simp, by simp⟩
  | mapping => exact ⟨by simp, by simp⟩

theorem IsSimple.splitMerge (hg : g.IsSimple) (es : List (Nat × Nat)) : g.splitMerge es = none := by
  induction es with
  | nil => rfl
  | cons e es ih =>
    obtain ⟨k, v⟩ := e
    rw [Graph.splitMerge, if_neg fun h => (hg.not_special h).1 rfl, ih]
    rfl

theorem IsSimple.nameKeys (hg : g.IsSimple) (es : List (Nat × Nat)) : Graph.nameKeys g es = g := by
  induction es with
  | nil => rfl
  | cons e es ih =>
    obtain ⟨k, v⟩ := e
    rw [Graph.nameKeys, if_neg fun h => (hg.not_special h).2 rfl, ih]

theorem fill_self {es : List (Nat × Nat)} (h : g.content? i = some (.mapping es)) :
    g.fill i (.mapping es) = g := by
  obtain ⟨n, hn, hcontent⟩ := Option.map_eq_some_iff.1 h
  obtain ⟨nodes⟩ := g
  refine congrArg Graph.mk (Array.ext_getElem? fun j => ?_)
  rw [Array.getElem?_modify]
  split
  · rename_i hij
    subst hij
    rw [hn, ← hcontent]
    rfl
  · rfl

theorem IsSimple.mergeInto (hg : g.IsSimple) {es : List (Nat × Nat)}
    (h : g.content? i = some (.mapping es)) (room : Nat) : Graph.mergeInto room [] g i = .ok g := by
  have hentries : g.entries? i = some es := by rw [entries?, h]
  unfold Graph.mergeInto
  simp only [hg.splitMerge, hentries, Option.getD_some, List.nil_append, fill_self h, hg.nameKeys]

end Graph

/-! ### Building a simple graph -/

namespace Build

variable {g : Graph} {b b' : Building} {i j low : Nat} {v : Value} {todo : List Nat}

/-- A collection that waits to be filled: the value fits the content. -/
inductive IsOpen (g : Graph) (b : Building) (i : Nat) : Prop
  | list {items js : List Nat} (node : g.nodes[i]? = some ⟨.seq, .sequence items⟩)
    (value : b.value? i = some (.list js)) : IsOpen g b i
  | map {es fs : List (Nat × Nat)} (node : g.nodes[i]? = some ⟨.map, .mapping es⟩)
    (value : b.value? i = some (.map fs)) : IsOpen g b i

/-- A node has its last value, and the nodes inside it have one, too. -/
structure IsFilled (g : Graph) (b : Building) (i : Nat) (v : Value) : Prop where
  gives : g.Gives i v
  inside : ∀ j, g.Inside i j → (b.value? j).isSome = true

/-- The nodes that have a value are filled, apart from those that wait.  These are the nodes `todo`,
none of which stands more than one place before `low`, and others that stand not before it. -/
structure Goes (g : Graph) (low : Nat) (todo : List Nat) (b : Building) : Prop where
  graph : b.graph = g
  size : b.values.size = g.size
  waiting : ∀ i, i ∈ todo ∨ i ∈ b.hollow → IsOpen g b i
  later : ∀ i ∈ b.hollow, low ≤ i
  now : ∀ i ∈ todo, low ≤ i + 1
  filled : ∀ i v, b.value? i = some v → i ∈ todo ∨ i ∈ b.hollow ∨ IsFilled g b i v

theorem IsOpen.of_extends (h : IsOpen g b i) (hb : Extends b b') : IsOpen g b' i := by
  cases h with
  | list hn hv => exact .list hn (hb i _ hv)
  | map hn hv => exact .map hn (hb i _ hv)

theorem Extends.isSome (h : Extends b b') (hi : (b.value? i).isSome = true) :
    (b'.value? i).isSome = true := by
  obtain ⟨v, hv⟩ := Option.isSome_iff_exists.1 hi
  exact Option.isSome_iff_exists.2 ⟨v, h i v hv⟩

theorem IsFilled.of_extends (h : IsFilled g b i v) (hb : Extends b b') : IsFilled g b' i v where
  gives := h.gives
  inside j hj := hb.isSome (h.inside j hj)

section

variable (hb : Goes g low todo b) (hvalue : b.value? i = none)

include hb hvalue

/-- A collection that has been begun waits. -/
theorem goes_open (hlow : low ≤ i) (hopen : IsOpen g (assign i v b) i) :
    Goes g low todo { assign i v b with hollow := i :: b.hollow } where
  graph := hb.graph
  size := Array.size_setIfInBounds.trans hb.size
  waiting j hj := by
    have hext : Extends b (assign i v b) := extends_assign hvalue
    rcases hj with hj | hj
    · exact (hb.waiting j (.inl hj)).of_extends hext
    · rcases List.mem_cons.1 hj with rfl | hj
      · exact hopen.of_extends fun _ _ h => h
      · exact (hb.waiting j (.inr hj)).of_extends hext
  later := List.forall_mem_cons.2 ⟨hlow, hb.later⟩
  now := hb.now
  filled j w hw := by
    have hext : Extends b (assign i v b) := extends_assign hvalue
    change (assign i v b).value? j = some w at hw
    by_cases hij : i = j
    · exact .inr (.inl (hij ▸ List.mem_cons_self))
    · rw [value?_assign_of_ne hij] at hw
      exact (hb.filled j w hw).imp id fun h =>
        h.imp (List.mem_cons_of_mem i) fun h => h.of_extends hext

/-- A scalar that has been begun is filled, for it has no nodes inside. -/
theorem goes_atom {tag : Tag} {s : Scalar} {a : Atom} (hn : g.nodes[i]? = some ⟨tag, .scalar s⟩)
    (hread : Atom.read i tag s.text = .ok a)
    (hself : (assign i (.atom a) b).value? i = some (.atom a)) :
    Goes g low todo (assign i (.atom a) b) where
  graph := hb.graph
  size := Array.size_setIfInBounds.trans hb.size
  waiting j hj := (hb.waiting j hj).of_extends (extends_assign hvalue)
  later := hb.later
  now := hb.now
  filled j w hw := by
    by_cases hij : i = j
    · subst hij
      obtain rfl := Option.some.inj (hself.symm.trans hw)
      refine .inr (.inr ⟨.scalar hn hread, fun j hj => ?_⟩)
      cases hj with
      | item hn' => exact absurd (hn.symm.trans hn') (by simp)
      | key hn' => exact absurd (hn.symm.trans hn') (by simp)
      | value hn' => exact absurd (hn.symm.trans hn') (by simp)
    · rw [value?_assign_of_ne hij] at hw
      exact (hb.filled j w hw).imp id fun h =>
        h.imp id fun h => h.of_extends (extends_assign hvalue)

end

/-- The value of a scalar of a simple graph. -/
theorem atom_of_read {tag : Tag} {s : Scalar} {a : Atom} (hn : g.nodes[i]? = some ⟨tag, .scalar s⟩)
    (hread : Atom.read i tag s.text = .ok a) : Value.hollow? tag = none ∧ g.atom i = .ok a := by
  have hhollow : Value.hollow? tag = none := by
    cases tag <;> first | rfl | cases hread
  have hatomic : tag.isAtomic = true := by
    cases tag <;> first | rfl | cases hread
  have hcontent := Graph.content?_of_getElem? hn
  have hentries : g.entries? i = none := by rw [Graph.entries?, hcontent]
  refine ⟨hhollow, ?_⟩
  rw [Graph.atom, hn]
  simp only [hatomic, Graph.scalarText_scalar hcontent, hentries, Option.isSome_none,
    Bool.and_false]
  exact hread

/-- Beginning a node behind those that are filled now leaves it waiting or filled. -/
theorem yields_begin (hg : g.IsSimple) (hb : Goes g low todo b) (hi : i < g.size) (hlow : low ≤ i) :
    Yields (fun _ => False) b (fun _ b' => Goes g low todo b' ∧ Extends b b'
      ∧ (b'.value? i).isSome = true) (begin i) := by
  cases hvalue : b.value? i with
  | some v =>
    rw [Yields, begin_of_some hvalue]
    exact ⟨hb, .refl b, by rw [hvalue]; rfl⟩
  | none =>
    have hself (v : Value) : (assign i v b).value? i = some v := by
      rw [value?_assign, if_pos ⟨rfl, hb.size ▸ hi⟩]
    have hsome (v : Value) : ((assign i v b).value? i).isSome = true :=
      Option.isSome_iff_exists.2 ⟨v, hself v⟩
    have hext (v : Value) : Extends b (assign i v b) := extends_assign hvalue
    obtain ⟨n, hn⟩ := Graph.exists_getElem?_of_lt hi
    rw [Yields, begin_of_none hvalue, first, pending, hb.graph, Graph.tag?, hn]
    cases hg i n hn with
    | sequence => exact ⟨goes_open hb hvalue hlow (.list hn (hself _)), hext _, hsome _⟩
    | mapping => exact ⟨goes_open hb hvalue hlow (.map hn (hself _)), hext _, hsome _⟩
    | @scalar tag s a hread =>
      obtain ⟨hhollow, hatom⟩ := atom_of_read hn hread
      simp only [Option.map_some, Option.bind_some, hhollow, hatom]
      exact ⟨goes_atom hb hvalue hn hread (hself _), hext _, hsome _⟩

theorem yields_forM_begin (hg : g.IsSimple) {items : List Nat}
    (hitems : ∀ j ∈ items, low ≤ j ∧ j < g.size) (hb : Goes g low todo b) :
    Yields (fun _ => False) b (fun _ b' => Goes g low todo b' ∧ Extends b b'
      ∧ ∀ j ∈ items, (b'.value? j).isSome = true) (items.forM begin) := by
  induction items generalizing b with
  | nil => exact yields_pure ⟨hb, .refl b, List.forall_mem_nil _⟩
  | cons j items ih =>
    rw [List.forall_mem_cons] at hitems
    refine (yields_begin hg hb hitems.1.2 hitems.1.1).bind fun _ c ⟨hc, hbc, hj⟩ => ?_
    refine (ih hitems.2 hc).imp fun _ d ⟨hd, hcd, hrest⟩ => ⟨hd, hbc.trans hcd, ?_⟩
    exact List.forall_mem_cons.2 ⟨hcd.isSome hj, hrest⟩

/-- A key is a text, once it has a value. -/
theorem value?_key (hb : Goes g low todo b) {k : Nat} {s : Scalar}
    (hk : g.nodes[k]? = some ⟨.str, .scalar s⟩) (hsome : (b.value? k).isSome = true) :
    b.value? k = some (.atom (.text (g.keyText k))) := by
  obtain ⟨v, hv⟩ := Option.isSome_iff_exists.1 hsome
  have hnot : ¬ IsOpen g b k := by
    rintro (⟨hn⟩ | ⟨hn⟩) <;> exact absurd (hk.symm.trans hn) (by simp)
  rcases hb.filled k v hv with h | h | h
  · exact absurd (hb.waiting k (.inl h)) hnot
  · exact absurd (hb.waiting k (.inr h)) hnot
  · cases h.gives with
    | sequence hn => exact absurd (hk.symm.trans hn) (by simp)
    | mapping hn => exact absurd (hk.symm.trans hn) (by simp)
    | scalar hn hread =>
      obtain ⟨rfl, rfl⟩ : _ ∧ _ := by simpa using Option.some.inj (hk.symm.trans hn)
      cases hread
      rw [hv, Graph.keyText, Graph.content?_of_getElem? hk]

/-- An entry of a mapping sets the member of its key; the nodes of the entry have values then. -/
theorem yields_member (hg : g.IsSimple) {e : Nat × Nat} {s : Scalar}
    (hs : g.nodes[e.1]? = some ⟨.str, .scalar s⟩) (hkey : low ≤ e.1)
    (hvalue : low ≤ e.2 ∧ e.2 < g.size) (ms : List Member) (hb : Goes g low todo b) :
    Yields (fun _ => False) b (fun ms' b' => Goes g low todo b' ∧ Extends b b'
      ∧ ((b'.value? e.1).isSome = true ∧ (b'.value? e.2).isSome = true)
      ∧ ms' = put (.text (g.keyText e.1)) e.1 e.2 ms) (do
        begin e.1
        let a ← key e.1
        begin e.2
        return put a e.1 e.2 ms) := by
  refine (yields_begin hg hb (Graph.lt_size_of_getElem? hs) hkey).bind fun _ c hbegin => ?_
  obtain ⟨hc, hbc, hk⟩ := hbegin
  have htext := value?_key hc hs hk
  refine Yields.bind (Q := fun a d => a = .text (g.keyText e.1) ∧ d = c) ?_ fun a d had => ?_
  · refine yields_value? ?_
    rw [htext]
    exact yields_pure ⟨rfl, rfl⟩
  · obtain ⟨rfl, rfl⟩ := had
    refine (yields_begin hg hc hvalue.2 hvalue.1).bind fun _ d hbegin => ?_
    obtain ⟨hd, hcd, hv⟩ := hbegin
    exact yields_pure ⟨hd, hbc.trans hcd,
      ⟨Option.isSome_iff_exists.2 ⟨_, hcd _ _ htext⟩, hv⟩, rfl⟩

theorem yields_foldlM_member (hg : g.IsSimple) {es : List (Nat × Nat)}
    (hkeys : ∀ e ∈ es, ∃ s, g.nodes[e.1]? = some ⟨.str, .scalar s⟩)
    (hinside : ∀ e ∈ es, low ≤ e.1 ∧ low ≤ e.2 ∧ e.2 < g.size) (ms : List Member)
    (hb : Goes g low todo b) :
    Yields (fun _ => False) b (fun ms' b' => Goes g low todo b' ∧ Extends b b'
      ∧ (∀ e ∈ es, (b'.value? e.1).isSome = true ∧ (b'.value? e.2).isSome = true)
      ∧ ms' = es.foldl (fun ms e => put (.text (g.keyText e.1)) e.1 e.2 ms) ms)
      (es.foldlM (fun ms e => do
        begin e.1
        let a ← key e.1
        begin e.2
        return put a e.1 e.2 ms) ms) := by
  induction es generalizing ms b with
  | nil => exact yields_pure ⟨hb, .refl b, List.forall_mem_nil _, rfl⟩
  | cons e es ih =>
    rw [List.forall_mem_cons] at hkeys hinside
    obtain ⟨s, hs⟩ := hkeys.1
    rw [List.foldlM_cons]
    refine (yields_member hg hs hinside.1.1 hinside.1.2 ms hb).bind fun ms' c hone => ?_
    obtain ⟨hc, hbc, hsome, rfl⟩ := hone
    refine (ih hkeys.2 hinside.2 _ hc).imp fun ms' d hmany => ?_
    obtain ⟨hd, hcd, hrest, hms'⟩ := hmany
    exact ⟨hd, hbc.trans hcd,
      List.forall_mem_cons.2 ⟨⟨hcd.isSome hsome.1, hcd.isSome hsome.2⟩, hrest⟩, hms'⟩

/-- The members of a mapping are those that its content tells. -/
theorem yields_members_simple (hg : g.IsSimple) {es : List (Nat × Nat)}
    (hn : g.nodes[i]? = some ⟨.map, .mapping es⟩) (hlow : low ≤ i + 1) (hb : Goes g low todo b) :
    Yields (fun _ => False) b (fun ms b' => Goes g low todo b' ∧ Extends b b'
      ∧ (∀ e ∈ es, (b'.value? e.1).isSome = true ∧ (b'.value? e.2).isSome = true)
      ∧ ms = g.members es) (members i) := by
  have hcontent := Graph.content?_of_getElem? hn
  have hentries : g.entries? i = some es := by rw [Graph.entries?, hcontent]
  have hsame : ({ b with graph := g } : Building) = b := by rw [← hb.graph]
  refine yields_get ?_
  rw [hb.graph, hg.mergeInto hcontent]
  refine yields_lift (fun fault h => by cases h) fun g' hg' => ?_
  cases hg'
  refine yields_modify ?_
  rw [hentries, hsame]
  cases hg i _ hn with
  | mapping hkeys hinside =>
    refine yields_foldlM_member hg hkeys (fun e he => ?_) [] hb
    obtain ⟨hkey, hvalue, hsize⟩ := hinside e he
    exact ⟨Nat.le_trans hlow hkey, Nat.le_trans hlow hvalue, hsize⟩

theorem lt_size_of_value? (h : b.value? i = some v) : i < b.values.size := by
  by_contra hlt
  rw [Building.value?, Array.getElem?_eq_none (Nat.le_of_not_lt hlt)] at h
  cases h

theorem value?_assign_self {w : Value} (h : b.value? i = some w) :
    (assign i v b).value? i = some v := by
  rw [value?_assign, if_pos ⟨rfl, lt_size_of_value? h⟩]

theorem isSome_value?_assign (h : (b.value? j).isSome = true) :
    ((assign i v b).value? j).isSome = true := by
  rw [value?_assign]
  split
  · rfl
  · exact h

/-- A collection that waited and has been given its last value is filled. -/
theorem goes_assign (hb : Goes g low (i :: todo) b) (hgives : g.Gives i v)
    (hinside : ∀ j, g.Inside i j → (b.value? j).isSome = true) (hopen : IsOpen g (assign i v b) i) :
    Goes g low todo (assign i v b) := by
  refine ⟨hb.graph, Array.size_setIfInBounds.trans hb.size, ?_, hb.later, ?_, ?_⟩
  · intro j hj
    by_cases hij : i = j
    · exact hij ▸ hopen
    · have hkept := value?_assign_of_ne (b := b) (v := v) hij
      cases hb.waiting j (hj.imp (List.mem_cons_of_mem i) id) with
      | list hn hv => exact .list hn (hkept.trans hv)
      | map hn hv => exact .map hn (hkept.trans hv)
  · exact fun j hj => hb.now j (List.mem_cons_of_mem i hj)
  · intro j w hw
    rw [value?_assign] at hw
    split at hw
    · rename_i hij
      obtain ⟨rfl, -⟩ := hij
      obtain rfl := Option.some.inj hw
      exact .inr (.inr ⟨hgives, fun k hk => isSome_value?_assign (hinside k hk)⟩)
    · rename_i hij
      rcases hb.filled j w hw with h | h | h
      · rcases List.mem_cons.1 h with rfl | h
        · exact absurd ⟨rfl, lt_size_of_value? hw⟩ hij
        · exact .inl h
      · exact .inr (.inl h)
      · exact .inr (.inr ⟨h.gives, fun k hk => isSome_value?_assign (h.inside k hk)⟩)

/-- Filling a collection that waits. -/
theorem yields_fill_simple (hg : g.IsSimple) (hb : Goes g low (i :: todo) b) :
    Yields (fun _ => False) b (fun _ b' => Goes g low todo b'
      ∧ ∀ j, (b.value? j).isSome = true → (b'.value? j).isSome = true) (fill i) := by
  have hlow : low ≤ i + 1 := hb.now i List.mem_cons_self
  refine yields_get (yields_value? ?_)
  cases hb.waiting i (.inl List.mem_cons_self) with
  | @list items js hn hvalue =>
    rw [hb.graph, hvalue, Graph.content?_of_getElem? hn]
    have hinside : ∀ j ∈ items, i < j ∧ j < g.size := by
      cases hg i _ hn with
      | sequence hinside => exact hinside
    refine (yields_forM_begin hg (fun j hj => ⟨Nat.le_trans hlow (hinside j hj).1,
      (hinside j hj).2⟩) hb).bind fun _ c ⟨hc, hbc, hitems⟩ => yields_set ?_
    refine ⟨?_, fun j hj => isSome_value?_assign (hbc.isSome hj)⟩
    refine goes_assign hc (.sequence hn) ?_ (.list hn (value?_assign_self (hbc i _ hvalue)))
    rintro j (⟨hn', hmem⟩ | ⟨hn'⟩ | ⟨hn'⟩)
    · obtain ⟨-, rfl⟩ : _ ∧ _ := by simpa using Option.some.inj (hn.symm.trans hn')
      exact hitems j hmem
    · exact absurd (hn.symm.trans hn') (by simp)
    · exact absurd (hn.symm.trans hn') (by simp)
  | @map es fs hn hvalue =>
    rw [hb.graph, hvalue, Graph.content?_of_getElem? hn]
    refine (yields_members_simple hg hn hlow hb).bind fun ms c ⟨hc, hbc, hsome, hms⟩ =>
      yields_set ?_
    subst hms
    refine ⟨?_, fun j hj => isSome_value?_assign (hbc.isSome hj)⟩
    refine goes_assign hc (.mapping hn) ?_ (.map hn (value?_assign_self (hbc i _ hvalue)))
    rintro j (⟨hn', hmem⟩ | ⟨hn', hmem⟩ | ⟨hn', hmem⟩)
    · exact absurd (hn.symm.trans hn') (by simp)
    · obtain ⟨-, rfl⟩ : _ ∧ _ := by simpa using Option.some.inj (hn.symm.trans hn')
      exact (hsome _ hmem).1
    · obtain ⟨-, rfl⟩ : _ ∧ _ := by simpa using Option.some.inj (hn.symm.trans hn')
      exact (hsome _ hmem).2

/-- No more rounds are needed than there are nodes behind those that wait. -/
theorem yields_fillAll_simple (hg : g.IsSimple) (rounds : Nat) (hb : Goes g low [] b)
    (hrounds : g.size ≤ low + rounds) :
    Yields (fun _ => False) b (fun _ b' => (∃ low, Goes g low [] b' ∧ b'.hollow = [])
      ∧ ∀ j, (b.value? j).isSome = true → (b'.value? j).isSome = true) (fillAll rounds) := by
  have hall (is : List Nat) (low : Nat) (b : Building) (hb : Goes g low is b) :
      Yields (fun _ => False) b (fun _ b' => Goes g low [] b'
        ∧ ∀ j, (b.value? j).isSome = true → (b'.value? j).isSome = true) (is.forM fill) := by
    induction is generalizing b with
    | nil => exact yields_pure ⟨hb, fun _ h => h⟩
    | cons i is ih =>
      refine (yields_fill_simple hg hb).bind fun _ c ⟨hc, hbc⟩ => ?_
      exact (ih c hc).imp fun _ d ⟨hd, hcd⟩ => ⟨hd, fun j hj => hcd j (hbc j hj)⟩
  induction rounds generalizing b low with
  | zero =>
    refine yields_pure ⟨⟨low, hb, List.eq_nil_iff_forall_not_mem.2 fun i hi => ?_⟩, fun _ h => h⟩
    have hsize : i < g.size := by
      cases hb.waiting i (.inr hi) with
      | list hn => exact Graph.lt_size_of_getElem? hn
      | map hn => exact Graph.lt_size_of_getElem? hn
    have hlow := hb.later i hi
    omega
  | succ rounds ih =>
    unfold fillAll
    refine yields_get ?_
    split
    · exact yields_pure ⟨⟨low, hb, ‹_›⟩, fun _ h => h⟩
    · rename_i is _
      have hstart : Goes g (low + 1) b.hollow.reverse { b with hollow := [] } := by
        refine ⟨hb.graph, hb.size, ?_, fun i hi => absurd hi List.not_mem_nil, ?_, ?_⟩
        · rintro i (hi | hi)
          · cases hb.waiting i (.inr (List.mem_reverse.1 hi)) with
            | list hn hv => exact .list hn hv
            | map hn hv => exact .map hn hv
          · exact absurd hi List.not_mem_nil
        · exact fun i hi => Nat.succ_le_succ (hb.later i (List.mem_reverse.1 hi))
        · intro i v hv
          rcases hb.filled i v hv with h | h | h
          · exact absurd h List.not_mem_nil
          · exact .inl (List.mem_reverse.2 h)
          · exact .inr (.inr ⟨h.gives, h.inside⟩)
      refine yields_modify ((hall _ _ _ hstart).bind fun _ c ⟨hc, hbc⟩ => ?_)
      exact (ih hc (by omega)).imp fun _ d ⟨hd, hcd⟩ => ⟨hd, fun j hj => hcd j (hbc j hj)⟩

end Build

/-- A simple graph has the values of a document: of the node that is the document, and of every node
inside one of them, the value that its content tells. -/
theorem Graph.IsSimple.ofGraph {g : Graph} (hg : g.IsSimple) {root : Nat} (hroot : root < g.size) :
    ∃ (d : Document) (known : Nat → Prop), Document.ofGraph g root = .ok d ∧ d.root = root
      ∧ known root ∧ ∀ i, known i → (∃ v, g.Gives i v ∧ d.values[i]? = some v)
        ∧ ∀ j, g.Inside i j → known j := by
  have hyields : Build.Yields (fun _ => False) g.building
      (fun _ b => (∃ low, Build.Goes g low [] b ∧ b.hollow = []) ∧ (b.value? root).isSome = true)
      (Build.begin root >>= fun _ => Build.fillAll g.size) := by
    have hstart : Build.Goes g 0 [] g.building := by
      refine ⟨rfl, Array.size_replicate, ?_, ?_, ?_, ?_⟩
      · rintro i (hi | hi) <;> exact absurd hi List.not_mem_nil
      · exact fun i hi => absurd hi List.not_mem_nil
      · exact fun i hi => absurd hi List.not_mem_nil
      · exact fun i v hv => absurd ((Graph.value?_building g i).symm.trans hv) (by simp)
    refine (Build.yields_begin hg hstart hroot (Nat.zero_le _)).bind fun _ b ⟨hb, _, hsome⟩ => ?_
    exact (Build.yields_fillAll_simple hg g.size hb (Nat.le_of_eq (Nat.zero_add _).symm)).imp
      fun _ c ⟨hc, hbc⟩ => ⟨hc, hbc root hsome⟩
  have hends := ends_ofGraph hyields
  cases hd : Document.ofGraph g root with
  | error fault => exact absurd (hends.fault hd) id
  | ok d =>
    obtain ⟨b, ⟨⟨low, hb, hhollow⟩, hknown⟩, rfl⟩ := hends.value hd
    refine ⟨_, fun i => (b.value? i).isSome = true, rfl, rfl, hknown, fun i hi => ?_⟩
    obtain ⟨v, hv⟩ := Option.isSome_iff_exists.1 hi
    have hfilled : Build.IsFilled g b i v := by
      rcases hb.filled i v hv with h | h | h
      · exact absurd h List.not_mem_nil
      · exact absurd h (hhollow ▸ List.not_mem_nil)
      · exact h
    exact ⟨⟨v, hfilled.gives, Building.getElem?_document hv root⟩, hfilled.inside⟩

end ClientScribe.Yaml
