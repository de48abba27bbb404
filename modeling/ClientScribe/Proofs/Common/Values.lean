import ClientScribe.Proofs.Common.LineEnds
import ClientScribe.Proofs.Common.Nodes

/-!
A common text is a document of its JSON value.
-/

namespace ClientScribe

namespace Yaml

/-! ### Documents as JSON values -/

theorem mapM_eq_some_iff {α β : Type} {f : α → Option β} {as : List α} {bs : List β} :
    as.mapM f = some bs ↔ List.Forall₂ (fun a b => f a = some b) as bs := by
  induction as generalizing bs with
  | nil =>
    rw [List.mapM_nil, List.forall₂_nil_left_iff, Option.pure_def, Option.some.injEq, eq_comm]
  | cons a as ih =>
    rw [List.forall₂_cons_left_iff]
    cases ha : f a with
    | none =>
      rw [Json.mapM_cons_of_eq_none ha]
      simp
    | some b =>
      rw [Json.mapM_cons_of_eq_some ha, Option.map_eq_some_iff]
      simp [ih, eq_comm]

namespace Document

variable (d : Document)

/-- The member that an entry is, where `value?` tells values. -/
def memberWith? (value? : Nat → Option Json) (e : Nat × Nat) : Option (String × Json) :=
  (d.text? e.1).bind fun key => (value? e.2).map fun v => (key, v)

/-- The JSON value that a node is, if no more than `depth` values are inside each other. -/
def json? (d : Document) : (depth : Nat) → (i : Nat) → Option Json
  | 0, _ => none
  | depth + 1, i =>
    match d.values[i]? with
    | some (.atom a) => a.json?
    | some (.list items) => (items.mapM (d.json? depth)).map .arr
    | some (.map es) => (es.mapM (d.memberWith? (d.json? depth))).map .obj
    | _ => none

variable {d} {depth i : Nat}

theorem memberWith?_eq_some_iff {value? : Nat → Option Json} {e : Nat × Nat} {m : String × Json} :
    d.memberWith? value? e = some m ↔ d.text? e.1 = some m.1 ∧ value? e.2 = some m.2 := by
  obtain ⟨key, v⟩ := m
  simp [memberWith?, Option.bind_eq_some_iff]

end Document

/-! ### Members -/

/-- What an entry of a mapping is as it is built, among entries whose keys are texts. -/
structure Build.Shows (d : Document) (value? : Nat → Option Json) (e : Build.Member)
    (m : String × Json) : Prop where
  key : e.1 = .text m.1
  entry : d.memberWith? value? e.2 = some m

variable {d : Document} {value? : Nat → Option Json}

/-- Setting an entry sets a member: of entries with one key there is one left, in both. -/
theorem Build.put_shows {es : List Build.Member} {ms : Json.Members}
    (h : List.Forall₂ (Build.Shows d value?) es ms) {k w : Nat} {key : String} {v : Json}
    (hk : d.text? k = some key) (hw : value? w = some v) :
    List.Forall₂ (Build.Shows d value?) (Build.put (.text key) k w es) (Json.put key v ms) := by
  induction h with
  | nil => exact .cons ⟨rfl, Document.memberWith?_eq_some_iff.2 ⟨hk, hw⟩⟩ .nil
  | @cons e m es ms he hes ih =>
    obtain ⟨a, j, u⟩ := e
    obtain ⟨key', v'⟩ := m
    obtain rfl : a = .text key' := he.key
    obtain ⟨hj, hu⟩ := Document.memberWith?_eq_some_iff.1 he.entry
    have hsame : Atom.same (.text key') (.text key) = decide (key' = key) := rfl
    rw [Build.put, Json.put, hsame]
    by_cases hkey : key' = key
    · subst hkey
      rw [decide_eq_true rfl, if_pos rfl, if_pos rfl]
      exact .cons ⟨rfl, Document.memberWith?_eq_some_iff.2 ⟨hj, hw⟩⟩ hes
    · rw [decide_eq_false hkey, if_neg Bool.false_ne_true, if_neg hkey]
      exact .cons he ih

/-- The entries that a mapping has at last are the members that its value has. -/
theorem Graph.members_shows {g : Graph} {es : List (Nat × Nat)} {ms : Json.Members}
    (h : List.Forall₂ (fun e m => g.keyText e.1 = m.1 ∧ d.memberWith? value? e = some m) es ms) :
    List.Forall₂ (Build.Shows d value?) (g.members es) (Json.override [] ms) := by
  have hfold {es : List (Nat × Nat)} {ms : Json.Members}
      (h : List.Forall₂ (fun e m => g.keyText e.1 = m.1 ∧ d.memberWith? value? e = some m) es ms)
      {fs : List Build.Member} {ns : Json.Members}
      (hns : List.Forall₂ (Build.Shows d value?) fs ns) : List.Forall₂ (Build.Shows d value?)
        (es.foldl (fun ms e => Build.put (.text (g.keyText e.1)) e.1 e.2 ms) fs)
        (Json.override ns ms) := by
    induction h generalizing fs ns with
    | nil => exact hns
    | @cons e m es ms he _ ih =>
      obtain ⟨hk, hw⟩ := Document.memberWith?_eq_some_iff.1 he.2
      rw [List.foldl_cons, he.1]
      exact ih (Build.put_shows hns hk hw)
  exact hfold h .nil

/-! ### Values of nodes -/

section

variable {g : Graph} {known : Nat → Prop} (hknown : ∀ i, known i →
  (∃ v, g.Gives i v ∧ d.values[i]? = some v) ∧ ∀ j, g.Inside i j → known j)

include hknown

/-- A key has its text. -/
theorem text?_of_known {i : Nat} {key : String} (hi : known i)
    (hnode : g.nodes[i]? = some ⟨.str, .scalar (.ofText key.toList)⟩) : d.text? i = some key := by
  obtain ⟨⟨v, hgives, hv⟩, -⟩ := hknown i hi
  cases hgives with
  | scalar hnode' hread =>
    cases hnode.symm.trans hnode'
    cases hread
    rw [Document.text?, Document.atom?, hv]
    exact congrArg some (String.ofList_toList)
  | sequence hnode' => cases hnode.symm.trans hnode'
  | mapping hnode' => cases hnode.symm.trans hnode'

/-- What a node tells is the JSON value that it is. -/
theorem Graph.Tells.json? {depth i : Nat} {v : Json} (h : g.Tells depth i v) (hi : known i) :
    d.json? depth i = some v := by
  induction depth generalizing i v with
  | zero => exact h.elim
  | succ depth ih =>
    obtain ⟨⟨val, hgives, hval⟩, hinside⟩ := hknown i hi
    rw [Document.json?, hval]
    cases h with
    | scalar hnode hdenotes =>
      obtain ⟨a, hread, hjson⟩ := hdenotes i
      cases hgives with
      | scalar hnode' hread' =>
        cases hnode.symm.trans hnode'
        cases hread.symm.trans hread'
        exact hjson
      | sequence hnode' =>
        exact absurd (congrArg Node.content (Option.some.inj (hnode.symm.trans hnode'))) (by simp)
      | mapping hnode' =>
        exact absurd (congrArg Node.content (Option.some.inj (hnode.symm.trans hnode'))) (by simp)
    | list hnode hparts =>
      cases hgives with
      | scalar hnode' => cases hnode.symm.trans hnode'
      | mapping hnode' => cases hnode.symm.trans hnode'
      | sequence hnode' =>
        cases hnode.symm.trans hnode'
        have hitems := (List.forall₂_and_left (p := known) _ _).2
          ⟨fun j hj => hinside j (.item hnode hj), hparts⟩
        have hjson := hitems.imp fun j w hj => (ih hj.2.2 hj.1 : d.json? depth j = some w)
        exact congrArg (Option.map Json.arr) (mapM_eq_some_iff.2 hjson)
    | object hnode hparts =>
      cases hgives with
      | scalar hnode' => cases hnode.symm.trans hnode'
      | sequence hnode' => cases hnode.symm.trans hnode'
      | mapping hnode' =>
        cases hnode.symm.trans hnode'
        have hentries := (List.forall₂_and_left (p := fun e => known e.1 ∧ known e.2) _ _).2
          ⟨fun e he => ⟨hinside _ (.key hnode he), hinside _ (.value hnode he)⟩, hparts⟩
        have hshows := Graph.members_shows (d := d) (g := g) (hentries.imp fun e m he => ⟨by
          rw [Graph.keyText, Graph.content?, he.2.key]
          exact String.ofList_toList, Document.memberWith?_eq_some_iff.2
            ⟨text?_of_known hknown he.1.1 he.2.key, ih he.2.value he.1.2⟩⟩)
        have hjson : ((g.members _).map Prod.snd).mapM (d.memberWith? (d.json? depth)) = some _ :=
          mapM_eq_some_iff.2 (List.forall₂_map_left_iff.2 (hshows.imp fun e m he => he.entry))
        exact congrArg (Option.map Json.obj) hjson

end

end Yaml

namespace Common

/-! ### Common texts -/

/-- The common text of a list or an object is a document that is this value. -/
theorem read_common [Interpreter] {text : String} {v : Json}
    (h : alone (value Interpreter.documentDepth) text.toList v) (hv : isCompound v = true) :
    ∃ d, Yaml.Document.read text = .ok d ∧ d.json? Interpreter.documentDepth d.root = some v := by
  have hunified := alone_unified h
  have hallowed : (Text.unifyLineEnds text.toList).all Yaml.isAllowed = true :=
    List.all_eq_true.2 (isAllowed_of_alone hunified)
  obtain ⟨g, root, htokens, hsimple, htells⟩ := Yaml.ofTokens_cut
    (cut_tokens hunified (not_mem_unifyLineEnds _) hv)
  obtain ⟨d, known, hgraph, rfl, hroot, hknown⟩ := hsimple.ofGraph htells.lt_size
  refine ⟨d, ?_, htells.json? hknown hroot⟩
  rw [Yaml.Document.read, Yaml.Document.ofLines, if_pos hallowed, htokens]
  exact hgraph

end Common

end ClientScribe
