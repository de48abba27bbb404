import ClientScribe.Inference.Refine
import ClientScribe.Proofs.Reference.Tree
import Mathlib.Data.Option.Basic

/-!
Places of types.  The alternatives of a field count as the elements of an array, and a place is the
way down from there, index by index.  The search for a tag has a place, the change of what it finds
is a change at that place, and changes at a place leave all that types say elsewhere.
-/

namespace ClientScribe.TypeNode

/-- The type at a place below another one. -/
def at? : (place : List Nat) → TypeNode → Option TypeNode
  | [], n => some n
  | i :: place, n => n.arrayTypes.bind fun ts => ts[i]?.bind (at? place)

/-- Changes the type at a place. -/
def modifyAt (f : TypeNode → TypeNode) : (place : List Nat) → TypeNode → TypeNode
  | [], n => f n
  | i :: place, n =>
    { n with arrayTypes := n.arrayTypes.map fun ts => ts.modify i (modifyAt f place) }

/-! ### The search for a tag -/

/-- The index of the first type with the tag. -/
def indexOf? (tag : String) (ts : List TypeNode) : Option Nat := ts.findIdx? fun t => t.tag == tag

mutual

/-- The place of the first type with the tag inside an array. -/
def locate (tag : String) : TypeNode → Option (List Nat)
  | ⟨t, _, _, _, _, arrayTypes⟩ => if t = "array" then locateElement tag arrayTypes else none

def locateElement (tag : String) : Option (List TypeNode) → Option (List Nat)
  | none => none
  | some ts =>
    ((indexOf? tag ts).map fun i => [i]).or ((locateDeeper tag ts).map fun p => p.1 :: p.2)

/-- The index of the first array of a list that has the tag inside, and the place in that array. -/
def locateDeeper (tag : String) : List TypeNode → Option (Nat × List Nat)
  | [] => none
  | t :: ts =>
    match locate tag t with
    | some place => some (0, place)
    | none => (locateDeeper tag ts).map fun p => (p.1 + 1, p.2)

end

variable {tag : String} {f g : TypeNode → TypeNode}

theorem indexOf?_cons (tag : String) (t : TypeNode) (ts : List TypeNode) :
    indexOf? tag (t :: ts) = if t.tag = tag then some 0 else (indexOf? tag ts).map (· + 1) := by
  rw [indexOf?, List.findIdx?_cons]
  simp only [beq_iff_eq]
  rfl

theorem map_indexOf? (tag : String) (ts : List TypeNode) :
    ((indexOf? tag ts).map fun i => ts[i]?) = (ts.find? fun t => t.tag == tag).map some := by
  induction ts with
  | nil => rfl
  | cons t ts ih =>
    rw [indexOf?_cons, List.find?_cons]
    by_cases ht : t.tag = tag
    · simp [ht]
    · rw [if_neg ht, beq_eq_false_iff_ne.2 ht, ← ih, Option.map_map]
      rfl

theorem map_locateDeeper {ts : List TypeNode}
    (h : ∀ t ∈ ts, ((locate tag t).map fun place => at? place t) = (findInside tag t).map some) :
    ((locateDeeper tag ts).map fun p => ts[p.1]?.bind (at? p.2)) =
      (findDeeper tag ts).map some := by
  induction ts with
  | nil => rfl
  | cons t ts ih =>
    obtain ⟨ht, hts⟩ := List.forall_mem_cons.1 h
    rw [locateDeeper, findDeeper]
    cases hplace : locate tag t with
    | none =>
      have hnone : findInside tag t = none :=
        Option.map_eq_none_iff.1 (ht.symm.trans (by rw [hplace]; rfl))
      rw [hnone, Option.none_or, ← ih hts, Option.map_map]
      rfl
    | some place =>
      obtain ⟨u, hu, hfound⟩ := Option.map_eq_some_iff.1 (ht.symm.trans (by rw [hplace]; rfl))
      rw [hu, Option.some_or, Option.map_some, Option.map_some]
      exact congrArg some hfound.symm

/-- The place of the first type with the tag holds the type that is found. -/
theorem map_locate (tag : String) (n : TypeNode) :
    ((locate tag n).map fun place => at? place n) = (findInside tag n).map some := by
  apply TypeNode.induction (Q := fun _ => True)
    (P := fun n => ((locate tag n).map fun place => at? place n) = (findInside tag n).map some)
  · intro n _ helements
    obtain ⟨t, startsWith, possibleValues, fields, id, _ | ts⟩ := n
    · rw [locate, findInside, locateElement, findInside?]
      split <;> rfl
    · have hhere := map_indexOf? tag ts
      have hdeeper := map_locateDeeper (helements ts rfl)
      rw [locate, findInside, locateElement, findInside?]
      split
      · rw [Option.map_or, Option.map_or, ← hhere, ← hdeeper, Option.map_map, Option.map_map]
        simp [at?, Function.comp_def]
      · rfl
  · intro f _
    trivial

/-- The search among alternatives is that among the elements of their array. -/
theorem find_eq_bind_locate (tag : String) (ts : List TypeNode) :
    find tag ts = (locate tag (arrayOf ts)).bind fun place => at? place (arrayOf ts) := by
  have hroot : findInside tag (arrayOf ts) = find tag ts := by
    rw [arrayOf, plain, findInside, if_pos rfl, findInside?, find]
  have h := map_locate tag (arrayOf ts)
  rw [hroot] at h
  cases hplace : locate tag (arrayOf ts) with
  | none =>
    rw [hplace] at h
    exact Option.map_eq_none_iff.1 h.symm
  | some place =>
    rw [hplace] at h
    obtain ⟨t, ht, hfound⟩ := Option.map_eq_some_iff.1 h.symm
    exact ht.trans hfound

/-! ### Changes at a place -/

/-- A change that concerns neither the tag of a type nor its elements. -/
structure IsLocal (f : TypeNode → TypeNode) : Prop where
  tag (n : TypeNode) : (f n).tag = n.tag
  elements (n : TypeNode) (ts : Option (List TypeNode)) :
    f { n with arrayTypes := ts } = { f n with arrayTypes := ts }

theorem IsLocal.arrayTypes (hf : IsLocal f) (n : TypeNode) :
    (f n).arrayTypes = n.arrayTypes := by
  obtain ⟨t, startsWith, possibleValues, fields, id, arrayTypes⟩ := n
  rw [hf.elements ⟨t, startsWith, possibleValues, fields, id, arrayTypes⟩ arrayTypes]

theorem modifyAt_tag (hf : IsLocal f) (place : List Nat) (n : TypeNode) :
    (modifyAt f place n).tag = n.tag := by
  cases place with
  | nil => exact hf.tag n
  | cons i place => rfl

theorem changeHere?_eq (ts : List TypeNode) :
    changeHere? tag f ts = (indexOf? tag ts).map fun i => ts.modify i f := by
  induction ts with
  | nil => rfl
  | cons t ts ih =>
    rw [changeHere?, indexOf?_cons]
    split
    · rfl
    · rw [ih, Option.map_map, Option.map_map]
      rfl

theorem changeDeeper?_eq {ts : List TypeNode}
    (h : ∀ t ∈ ts, changeInside? tag f t = (locate tag t).map fun place => modifyAt f place t) :
    changeDeeper? tag f ts =
      (locateDeeper tag ts).map fun p => ts.modify p.1 (modifyAt f p.2) := by
  induction ts with
  | nil => rfl
  | cons t ts ih =>
    obtain ⟨ht, hts⟩ := List.forall_mem_cons.1 h
    rw [changeDeeper?, locateDeeper, ht]
    cases locate tag t with
    | none =>
      rw [Option.map_none, Option.map_map, ih hts, Option.map_map]
      rfl
    | some place => rfl

/-- The change of the first type with the tag is the change at its place. -/
theorem changeInside?_eq (n : TypeNode) :
    changeInside? tag f n = (locate tag n).map fun place => modifyAt f place n := by
  apply TypeNode.induction (Q := fun _ => True)
    (P := fun n => changeInside? tag f n = (locate tag n).map fun place => modifyAt f place n)
  · intro n _ helements
    obtain ⟨t, startsWith, possibleValues, fields, id, _ | ts⟩ := n
    · rw [changeInside?, locate, changeElements?, locateElement]
      split <;> rfl
    · have hdeeper := changeDeeper?_eq (helements ts rfl)
      rw [changeInside?, locate, changeElements?, locateElement, changeHere?_eq, hdeeper]
      split
      · rw [Option.map_or, Option.map_or]
        simp [modifyAt, Function.comp_def]
      · rfl
  · intro f _
    trivial

/-- Changes the first type with the tag below another one. -/
def modifyFirst (tag : String) (f : TypeNode → TypeNode) (n : TypeNode) : TypeNode :=
  ((locate tag n).map fun place => modifyAt f place n).getD n

theorem arrayOf_change (tag : String) (f : TypeNode → TypeNode) (ts : List TypeNode) :
    arrayOf (change tag f ts) = modifyFirst tag f (arrayOf ts) := by
  rw [modifyFirst, ← changeInside?_eq, arrayOf, arrayOf, plain, changeInside?, if_pos rfl,
    changeElements?, change]
  cases (changeHere? tag f ts).or (changeDeeper? tag f ts) <;> rfl

/-! ### What a change leaves -/

/-- Two types say the same by themselves, whatever the elements below them are; one may be refined
otherwise than the other as a string, and as an object, where that is allowed. -/
structure SameApart (string object : Prop) (n n' : TypeNode) : Prop where
  tag : n'.tag = n.tag
  startsWith : ¬ string → n'.startsWith = n.startsWith
  possibleValues : ¬ string → n'.possibleValues = n.possibleValues
  fields : ¬ object → n'.fields = n.fields
  id : ¬ object → n'.id = n.id
  elements : n'.arrayTypes.isSome = n.arrayTypes.isSome

variable {string object : Prop}

theorem SameApart.refl (n : TypeNode) : SameApart string object n n :=
  ⟨rfl, fun _ => rfl, fun _ => rfl, fun _ => rfl, fun _ => rfl, rfl⟩

theorem rel_sameApart_refl (o : Option TypeNode) : Option.Rel (SameApart string object) o o := by
  cases o with
  | none => exact .none
  | some n => exact .some (.refl n)

theorem at?_modifyAt_self (f : TypeNode → TypeNode) (place : List Nat) (n : TypeNode) :
    at? place (modifyAt f place n) = (at? place n).map f := by
  induction place generalizing n with
  | nil => rfl
  | cons i place ih =>
    obtain ⟨t, startsWith, possibleValues, fields, id, _ | ts⟩ := n
    · rfl
    · simp only [at?, modifyAt, Option.map_some, Option.bind_some, List.getElem?_modify, if_true]
      cases ts[i]? with
      | none => rfl
      | some u => exact ih u

/-- Elsewhere all stays as it was. -/
theorem at?_modifyAt_of_ne (hf : IsLocal f) {place other : List Nat} (hne : other ≠ place)
    (n : TypeNode) :
    Option.Rel (SameApart string object) (at? other n) (at? other (modifyAt f place n)) := by
  induction place generalizing other n with
  | nil =>
    cases other with
    | nil => exact absurd rfl hne
    | cons j other =>
      rw [modifyAt, at?, at?, hf.arrayTypes]
      exact rel_sameApart_refl _
  | cons i place ih =>
    cases other with
    | nil =>
      have hsome : (modifyAt f (i :: place) n).arrayTypes.isSome = n.arrayTypes.isSome :=
        Option.isSome_map
      exact .some ⟨rfl, fun _ => rfl, fun _ => rfl, fun _ => rfl, fun _ => rfl, hsome⟩
    | cons j other =>
      obtain ⟨t, startsWith, possibleValues, fields, id, _ | ts⟩ := n
      · exact .none
      · simp only [at?, modifyAt, Option.map_some, Option.bind_some, List.getElem?_modify]
        cases ts[j]? with
        | none => exact .none
        | some u =>
          by_cases hij : i = j
          · subst hij
            simpa using ih (fun h => hne (h ▸ rfl)) u
          · simpa [hij] using rel_sameApart_refl (at? other u)

theorem indexOf?_modify (hg : ∀ t, (g t).tag = t.tag) (i : Nat) (ts : List TypeNode) :
    indexOf? tag (ts.modify i g) = indexOf? tag ts := by
  induction ts generalizing i with
  | nil => cases i <;> rfl
  | cons t ts ih =>
    cases i with
    | zero => rw [List.modify_zero_cons, indexOf?_cons, indexOf?_cons, hg]
    | succ i => rw [List.modify_succ_cons, indexOf?_cons, indexOf?_cons, ih]

theorem locateDeeper_modify (hg : ∀ t, locate tag (g t) = locate tag t) (i : Nat)
    (ts : List TypeNode) : locateDeeper tag (ts.modify i g) = locateDeeper tag ts := by
  induction ts generalizing i with
  | nil => cases i <;> rfl
  | cons t ts ih =>
    cases i with
    | zero => rw [List.modify_zero_cons, locateDeeper, locateDeeper, hg]
    | succ i => rw [List.modify_succ_cons, locateDeeper, locateDeeper, ih]

/-- No tag is found at another place after the change. -/
theorem locate_modifyAt (hf : IsLocal f) (place : List Nat) (n : TypeNode) :
    locate tag (modifyAt f place n) = locate tag n := by
  have hcongr {n n' : TypeNode} (htag : n'.tag = n.tag) (h : n'.arrayTypes = n.arrayTypes) :
      locate tag n' = locate tag n := by
    obtain ⟨t, _, _, _, _, arrayTypes⟩ := n
    obtain ⟨t', _, _, _, _, arrayTypes'⟩ := n'
    obtain ⟨rfl, rfl⟩ : t' = t ∧ arrayTypes' = arrayTypes := ⟨htag, h⟩
    rw [locate, locate]
  induction place generalizing n with
  | nil => exact hcongr (hf.tag n) (hf.arrayTypes n)
  | cons i place ih =>
    obtain ⟨t, startsWith, possibleValues, fields, id, _ | ts⟩ := n
    · rfl
    · rw [modifyAt, locate, locate]
      simp only [Option.map_some, locateElement, indexOf?_modify (modifyAt_tag hf place),
        locateDeeper_modify ih]

/-! ### Two changes -/

theorem modifyAt_modifyAt_self (f g : TypeNode → TypeNode) (place : List Nat) (n : TypeNode) :
    modifyAt f place (modifyAt g place n) = modifyAt (f ∘ g) place n := by
  induction place generalizing n with
  | nil => rfl
  | cons i place ih =>
    obtain ⟨t, startsWith, possibleValues, fields, id, _ | ts⟩ := n
    · rfl
    · simp only [modifyAt, Option.map_some, List.modify_modify_eq, Function.comp_def, ih]

/-- Changes at different places may change places. -/
theorem modifyAt_comm (hf : IsLocal f) (hg : IsLocal g) {p q : List Nat} (hne : p ≠ q)
    (n : TypeNode) : modifyAt f p (modifyAt g q n) = modifyAt g q (modifyAt f p n) := by
  induction p generalizing q n with
  | nil =>
    cases q with
    | nil => exact absurd rfl hne
    | cons j q =>
      rw [modifyAt, modifyAt, modifyAt, modifyAt, hf.elements, hf.arrayTypes]
  | cons i p ih =>
    cases q with
    | nil => rw [modifyAt, modifyAt, modifyAt, modifyAt, hg.elements, hg.arrayTypes]
    | cons j q =>
      obtain ⟨t, startsWith, possibleValues, fields, id, _ | ts⟩ := n
      · rfl
      · simp only [modifyAt, Option.map_some]
        by_cases hij : i = j
        · subst hij
          have hpq (u : TypeNode) := ih (q := q) (fun h => hne (h ▸ rfl)) u
          simp only [List.modify_modify_eq, Function.comp_def, hpq]
        · rw [List.modify_modify_ne _ _ _ (Ne.symm hij)]

end ClientScribe.TypeNode
