import ClientScribe.Proofs.Yaml.Cut
import ClientScribe.Yaml.Build

/-!
The values that building leaves.  A node that has a value keeps it, but for collections, which are
filled; and the keys of mappings are atoms.
-/

namespace ClientScribe.Yaml

/-- The value that a node has so far. -/
def Building.value? (b : Building) (i : Nat) : Option Value := (b.values[i]?).join

namespace Build

variable {P : Fault → Prop} {b b' : Building} {i j : Nat} {v : Value}

/-- Values there are stay as they are. -/
def Extends (b b' : Building) : Prop := ∀ i v, b.value? i = some v → b'.value? i = some v

theorem Extends.refl (b : Building) : Extends b b := fun _ _ h => h

theorem Extends.trans {b'' : Building} (h : Extends b b') (h' : Extends b' b'') : Extends b b'' :=
  fun i v hv => h' i v (h i v hv)

/-- The building after a node has got a value. -/
def assign (i : Nat) (v : Value) (b : Building) : Building :=
  { b with values := b.values.setIfInBounds i (some v) }

theorem value?_assign (j : Nat) : (assign i v b).value? j =
    if i = j ∧ i < b.values.size then some v else b.value? j := by
  simp only [assign, Building.value?, Array.getElem?_setIfInBounds]
  split
  · rename_i h
    subst h
    split
    · rename_i hlt
      simp [hlt]
    · rename_i hlt
      simp [hlt]
  · rename_i h
    simp [h]

theorem value?_assign_of_ne (h : i ≠ j) : (assign i v b).value? j = b.value? j := by
  rw [value?_assign, if_neg fun h' => h h'.1]

theorem extends_assign (h : b.value? i = none) : Extends b (assign i v b) := by
  intro j w hw
  rwa [value?_assign_of_ne]
  rintro rfl
  exact absurd (h.symm.trans hw) (by simp)

/-! ### Beginning a node -/

/-- The first value of a node. -/
def first (g : Graph) (i : Nat) : Except Fault Value :=
  match (g.tag? i).bind Value.hollow? with
  | some v => .ok v
  | none => (g.atom i).map .atom

/-- The collections to be filled once a node has been begun. -/
def pending (b : Building) (i : Nat) : List Nat :=
  if ((b.graph.tag? i).bind Value.hollow?).isSome then i :: b.hollow else b.hollow

/-- Beginning a node that has no value gives it its first one. -/
theorem begin_of_none (h : b.value? i = none) : begin i b = (first b.graph i).map fun v =>
    ((), { assign i v b with hollow := pending b i }) := by
  have hrun : begin i b = (match (b.graph.tag? i).bind Value.hollow? with
      | some v => do
        set i v
        modify fun b => { b with hollow := i :: b.hollow }
      | none => do set i (.atom (← b.graph.atom i)) : Build Unit) b := by
    change (if (b.value? i).isNone then _ else _ : Build Unit) b = _
    rw [h]
    rfl
  rw [hrun, first, pending]
  cases (b.graph.tag? i).bind Value.hollow? with
  | some v => rfl
  | none =>
    cases b.graph.atom i with
    | error fault => rfl
    | ok a => rfl

theorem begin_of_some (h : b.value? i = some v) : begin i b = .ok ((), b) := by
  change (if (b.value? i).isNone then _ else _ : Build Unit) b = _
  rw [h]
  rfl

theorem first_eq_of_map {es : List (Nat × Nat)} {g : Graph} (h : first g i = .ok (.map es)) :
    es = [] := by
  unfold first at h
  split at h
  · rename_i v hv
    cases h
    obtain ⟨tag, -, htag⟩ := Option.bind_eq_some_iff.1 hv
    unfold Value.hollow? at htag
    split at htag <;> cases htag
    rfl
  · cases hatom : g.atom i with
    | error fault =>
      rw [hatom] at h
      cases h
    | ok a =>
      rw [hatom] at h
      cases h

/-! ### Ends of actions -/

section

variable {α β : Type} {Q Q' : α → Building → Prop} {R : β → Building → Prop}

/-- An action that starts at `b` ends in a fault of which `P` holds, or with a value and a building
of which `Q` holds. -/
def Yields (P : Fault → Prop) (b : Building) (Q : α → Building → Prop) (p : Build α) : Prop :=
  Ends P (fun q => Q q.1 q.2) (p b)

theorem Yields.imp {p : Build α} (h : Yields P b Q p) (hQ : ∀ a b', Q a b' → Q' a b') :
    Yields P b Q' p := Ends.imp h (fun _ h => h) fun q => hQ q.1 q.2

theorem Yields.bind {p : Build α} {f : α → Build β} (hp : Yields P b Q p)
    (hf : ∀ a b', Q a b' → Yields P b' R (f a)) : Yields P b R (p >>= f) :=
  Ends.bind hp fun q hq => hf q.1 q.2 hq

theorem yields_pure {a : α} (h : Q a b) : Yields P b Q (pure a) := h

theorem yields_get {f : Building → Build β} (h : Yields P b R (f b)) : Yields P b R (get >>= f) := h

theorem yields_value? {f : Option Value → Build β} (h : Yields P b R (f (b.value? i))) :
    Yields P b R (value? i >>= f) := h

theorem yields_modify {f : Building → Building} {k : Unit → Build β}
    (h : Yields P (f b) R (k ())) : Yields P b R (modify f >>= k) := h

theorem yields_lift {x : Except Fault α} {f : α → Build β}
    (hP : ∀ fault, x = .error fault → P fault) (h : ∀ a, x = .ok a → Yields P b R (f a)) :
    Yields P b R (liftM x >>= f) := by
  cases x with
  | error fault => exact hP fault rfl
  | ok a => exact h a rfl

theorem yields_set {Q : Unit → Building → Prop} (h : Q () (assign i v b)) :
    Yields P b Q (set i v) := h

end

/-! ### Keys are atoms -/

/-- A node has an atom for its value. -/
def IsAtom (b : Building) (i : Nat) : Prop := ∃ a, b.value? i = some (.atom a)

/-- The keys of mappings are atoms. -/
def IsKeyed (b : Building) : Prop :=
  ∀ i es, b.value? i = some (.map es) → ∀ e ∈ es, IsAtom b e.1

/-- An action adds values, and keys stay atoms. -/
structure Grows (b b' : Building) : Prop where
  values : Extends b b'
  keyed : IsKeyed b → IsKeyed b'

theorem Grows.refl (b : Building) : Grows b b := ⟨.refl b, id⟩

theorem Grows.trans {b'' : Building} (h : Grows b b') (h' : Grows b' b'') : Grows b b'' :=
  ⟨h.values.trans h'.values, h'.keyed ∘ h.keyed⟩

theorem IsAtom.of_extends (h : IsAtom b i) (hb : Extends b b') : IsAtom b' i := by
  obtain ⟨a, ha⟩ := h
  exact ⟨a, hb i _ ha⟩

/-- A node whose value is no atom may get another with atoms for its keys. -/
theorem isKeyed_assign (hb : IsKeyed b) (hi : ¬ IsAtom b i)
    (hv : ∀ es, v = .map es → ∀ e ∈ es, IsAtom b e.1) : IsKeyed (assign i v b) := by
  have hkept {k : Nat} (hk : IsAtom b k) : IsAtom (assign i v b) k := by
    have hne : i ≠ k := fun h => hi (h ▸ hk)
    obtain ⟨a, ha⟩ := hk
    exact ⟨a, (value?_assign_of_ne hne).trans ha⟩
  intro j es hj e he
  rw [value?_assign] at hj
  split at hj
  · exact hkept (hv es (Option.some.inj hj) e he)
  · exact hkept (hb j es hj e he)

section

variable {α β : Type}

/-- An action adds values, if it comes to its end. -/
def Adds (p : Build α) : Prop := ∀ b, Yields (fun _ => True) b (fun _ => Grows b) p

theorem Adds.bind {p : Build α} {f : α → Build β} (hp : Adds p) (hf : ∀ a, Adds (f a)) :
    Adds (p >>= f) :=
  fun b => Yields.bind (hp b) fun a b' hb' => (hf a b').imp fun _ _ => hb'.trans

theorem adds_pure (a : α) : Adds (pure a) := fun b => yields_pure (.refl b)

theorem adds_begin (i : Nat) : Adds (begin i) := by
  intro b
  rw [Yields]
  cases hvalue : b.value? i with
  | some v =>
    rw [begin_of_some hvalue]
    exact .refl b
  | none =>
    rw [begin_of_none hvalue]
    cases hfirst : first b.graph i with
    | error fault => trivial
    | ok v =>
      refine ⟨extends_assign hvalue, fun hb => isKeyed_assign hb ?_ ?_⟩
      · rintro ⟨a, ha⟩
        exact absurd (hvalue.symm.trans ha) (by simp)
      · rintro es rfl e he
        rw [first_eq_of_map hfirst] at he
        exact absurd he List.not_mem_nil

theorem adds_forM {f : α → Build Unit} (hf : ∀ a, Adds (f a)) (as : List α) :
    Adds (as.forM f) := by
  induction as with
  | nil => exact adds_pure ()
  | cons a as ih => exact (hf a).bind fun _ => ih

theorem adds_mapM {f : α → Build β} (hf : ∀ a, Adds (f a)) (as : List α) : Adds (as.mapM f) := by
  induction as with
  | nil => exact adds_pure []
  | cons a as ih =>
    rw [List.mapM_cons]
    exact (hf a).bind fun _ => ih.bind fun _ => adds_pure _

end

theorem yields_key (i : Nat) (b : Building) :
    Yields (fun _ => True) b (fun _ b' => b' = b ∧ IsAtom b i) (key i) := by
  refine yields_value? ?_
  split
  · exact yields_pure ⟨rfl, _, ‹_›⟩
  · trivial

theorem put_keys {a : Atom} {k w : Nat} {es : List Member} {e : Member} (h : e ∈ put a k w es) :
    e.2.1 = k ∨ ∃ f ∈ es, e.2.1 = f.2.1 := by
  induction es with
  | nil =>
    rw [put, List.mem_singleton] at h
    exact .inl (h ▸ rfl)
  | cons f es ih =>
    obtain ⟨c, j, u⟩ := f
    rw [put] at h
    split at h
    · rcases List.mem_cons.1 h with rfl | h
      · exact .inr ⟨(c, j, u), List.mem_cons_self, rfl⟩
      · exact .inr ⟨e, List.mem_cons_of_mem _ h, rfl⟩
    · rcases List.mem_cons.1 h with rfl | h
      · exact .inr ⟨_, List.mem_cons_self, rfl⟩
      · exact (ih h).imp id fun ⟨f, hf, he⟩ => ⟨f, List.mem_cons_of_mem _ hf, he⟩

/-- The members of a mapping have atoms for their keys. -/
theorem yields_members (i : Nat) (b : Building) : Yields (fun _ => True) b
    (fun es b' => Grows b b' ∧ ∀ e ∈ es, IsAtom b' e.2.1) (members i) := by
  refine yields_get (yields_lift (fun _ _ => trivial) fun g _ => yields_modify ?_)
  have hfold (entries : List (Nat × Nat)) (es : List Member) (b : Building)
      (hes : ∀ e ∈ es, IsAtom b e.2.1) : Yields (fun _ => True) b
      (fun es b' => Grows b b' ∧ ∀ e ∈ es, IsAtom b' e.2.1)
      (entries.foldlM (fun es e => do
        begin e.1
        let a ← key e.1
        begin e.2
        return put a e.1 e.2 es) es) := by
    induction entries generalizing es b with
    | nil => exact yields_pure ⟨.refl b, hes⟩
    | cons entry entries ih =>
      rw [List.foldlM_cons]
      refine Yields.bind (Q := fun es b' => Grows b b' ∧ ∀ e ∈ es, IsAtom b' e.2.1) ?_
        fun es b' hb' => (ih es b' hb'.2).imp fun _ _ h => ⟨hb'.1.trans h.1, h.2⟩
      refine Yields.bind (adds_begin entry.1 b) fun _ c hc => ?_
      refine (yields_key entry.1 c).bind fun a _ ⟨hc', hatom⟩ => ?_
      subst hc'
      refine Yields.bind (adds_begin entry.2 _) fun _ d hd => ?_
      refine yields_pure ⟨hc.trans hd, fun e he => ?_⟩
      rcases put_keys he with h | ⟨f, hf, h⟩
      · exact h ▸ hatom.of_extends hd.values
      · exact h ▸ (hes f hf).of_extends (hc.trans hd).values
  exact (hfold _ [] { b with graph := g } fun e he => absurd he List.not_mem_nil).imp
    fun _ _ h => ⟨⟨h.1.values, h.1.keyed⟩, h.2⟩

/-- Filling a collection leaves the keys of mappings atoms. -/
theorem yields_fill (i : Nat) (b : Building) :
    Yields (fun _ => True) b (fun _ b' => IsKeyed b → IsKeyed b') (fill i) := by
  have hset {b' : Building} {v w : Value} (hg : Grows b b') (hv : b.value? i = some v)
      (hatom : ∀ a, v ≠ .atom a) (hw : ∀ es, w = .map es → ∀ e ∈ es, IsAtom b' e.1) :
      Yields (fun _ => True) b' (fun _ b' => IsKeyed b → IsKeyed b') (set i w) := by
    refine yields_set fun hb => isKeyed_assign (hg.keyed hb) ?_ hw
    rintro ⟨a, ha⟩
    exact hatom a (Option.some.inj ((hg.values i v hv).symm.trans ha))
  have hpairs (items : List Nat) : Adds (pairs items) := by
    refine adds_mapM (fun j b => yields_get ?_) items
    split
    · exact (adds_begin _).bind (fun _ => (adds_begin _).bind fun _ => adds_pure _) b
    · trivial
  refine yields_get (yields_value? ?_)
  split
  · exact Yields.bind (adds_forM adds_begin _ b) fun _ _ hg => hset hg ‹_› (by simp) (by simp)
  · refine (yields_members i b).bind fun es _ ⟨hg, hes⟩ => hset hg ‹_› (by simp) ?_
    intro entries hentries e he
    obtain rfl := Value.map.inj hentries
    obtain ⟨m, hm, rfl⟩ := List.mem_map.1 he
    exact hes m hm
  · exact (yields_members i b).bind fun es _ ⟨hg, _⟩ => hset hg ‹_› (by simp) (by simp)
  · exact Yields.bind (hpairs _ b) fun _ _ hg => hset hg ‹_› (by simp) (by simp)
  · trivial

theorem yields_fillAll (rounds : Nat) (b : Building) :
    Yields (fun _ => True) b (fun _ b' => IsKeyed b → IsKeyed b') (fillAll rounds) := by
  have hall (is : List Nat) (b : Building) :
      Yields (fun _ => True) b (fun _ b' => IsKeyed b → IsKeyed b') (is.forM fill) := by
    induction is generalizing b with
    | nil => exact yields_pure id
    | cons i is ih =>
      exact (yields_fill i b).bind fun _ b' hb' => (ih b').imp fun _ _ h => h ∘ hb'
  induction rounds generalizing b with
  | zero => exact yields_pure id
  | succ rounds ih =>
    unfold fillAll
    refine yields_get ?_
    split
    · exact yields_pure id
    · refine yields_modify ((hall _ _).bind fun _ b' hb' => (ih b').imp fun _ _ h => h ∘ hb')

end Build

/-! ### Documents -/

/-- The document that building leaves. -/
def Building.document (b : Building) (root : Nat) : Document :=
  ⟨b.values.map fun v => v.getD (.atom .null), root⟩

/-- Where building starts. -/
def Graph.building (g : Graph) : Building := ⟨g, g.mergeCount, .replicate g.size none, []⟩

@[simp] theorem Graph.value?_building (g : Graph) (i : Nat) : g.building.value? i = none := by
  simp only [Building.value?, building, Array.getElem?_replicate]
  split <;> rfl

theorem Building.getElem?_document {b : Building} {i : Nat} {v : Value} (h : b.value? i = some v)
    (root : Nat) : (b.document root).values[i]? = some v := by
  rw [value?, Option.join_eq_some_iff] at h
  simp [document, h]

theorem Building.value?_eq_of_entries? {b : Building} {i root : Nat} {es : List (Nat × Nat)}
    (h : (b.document root).entries? i = some es) : b.value? i = some (.map es) := by
  simp only [Document.entries?, document, Array.getElem?_map] at h
  rw [value?]
  cases hv : b.values[i]? with
  | none => simp [hv] at h
  | some v => rcases v with _ | (_ | _ | _ | _ | _) <;> simp_all

theorem ends_ofGraph {P : Fault → Prop} {Q : Unit → Building → Prop} {g : Graph} {root : Nat}
    (h : Build.Yields P g.building Q (Build.begin root >>= fun _ => Build.fillAll g.size)) :
    Ends P (fun d => ∃ b, Q () b ∧ d = b.document root) (Document.ofGraph g root) :=
  Ends.map h fun q hq => ⟨q.2, hq, rfl⟩

/-- The keys of the mappings in a document are atoms. -/
theorem Document.isSome_atom?_of_entries? {g : Graph} {root i : Nat} {d : Document}
    {es : List (Nat × Nat)} {e : Nat × Nat} (h : ofGraph g root = .ok d)
    (hi : d.entries? i = some es) (he : e ∈ es) : (d.atom? e.1).isSome = true := by
  have hends : Build.Yields (fun _ => True) g.building (fun _ => Build.IsKeyed)
      (Build.begin root >>= fun _ => Build.fillAll g.size) := by
    have hstart : Build.IsKeyed g.building := fun j es hj => by simp at hj
    refine Build.Yields.bind (Build.adds_begin root _) fun _ b hb => ?_
    exact (Build.yields_fillAll g.size b).imp fun _ _ h => h (hb.keyed hstart)
  obtain ⟨b, hb, rfl⟩ := (ends_ofGraph hends).value h
  obtain ⟨a, ha⟩ := hb i es (Building.value?_eq_of_entries? hi) e he
  rw [atom?, Building.getElem?_document ha]
  rfl

end ClientScribe.Yaml
