import ClientScribe.Proofs.Reference.Merge
import ClientScribe.Proofs.Reference.Tree
import Mathlib.Data.List.Basic
import Mathlib.Data.List.Induction

/-!
Merging is grouping by name: the merged field of a name joins all occurrences of the name in their
order.  Joining is associative, so it does not matter in how many steps fields are merged.
-/

namespace ClientScribe

/-! ### Alternatives of two lists -/

namespace TypeNode

variable {t u : TypeNode} {ts us vs : List TypeNode}

theorem union_cons_of_mem (h : u ∈ ts) : union ts (u :: us) = union ts us := by
  simp [union, h]

theorem union_cons_of_not_mem (h : u ∉ ts) : union ts (u :: us) = union (ts ++ [u]) us := by
  simp [union, h]

/-- What is new in the second list comes behind the first list, each type once and in order. -/
theorem union_eq (ts us : List TypeNode) : union ts us = ts ++ (us.removeAll ts).eraseDups := by
  induction us generalizing ts with
  | nil => simp [union, List.removeAll]
  | cons u us ih =>
    by_cases hu : u ∈ ts
    · have hold : (u :: us).removeAll ts = us.removeAll ts := by simp [List.removeAll, hu]
      rw [union_cons_of_mem hu, hold, ih]
    · have hnew : (u :: us).removeAll ts = u :: us.removeAll ts := by simp [List.removeAll, hu]
      have hrest : us.removeAll (ts ++ [u]) = (us.removeAll ts).filter fun t => !t == u := by
        rw [List.removeAll, List.removeAll, List.filter_filter]
        apply List.filter_congr
        intro t _
        by_cases ht : t = u <;> simp [ht]
      rw [union_cons_of_not_mem hu, hnew, List.eraseDups_cons, ← hrest, ih, List.append_assoc,
        List.singleton_append]

theorem mem_union : t ∈ union ts us ↔ t ∈ ts ∨ t ∈ us := by
  by_cases ht : t ∈ ts <;> simp [union_eq, List.removeAll, ht]

theorem union_append : union ts (us ++ vs) = union (union ts us) vs := List.foldl_append

/-- Adding what is new in a union is adding one part of it after the other. -/
theorem union_union : union ts (union us vs) = union (union ts us) vs := by
  induction vs generalizing us with
  | nil => rfl
  | cons v vs ih =>
    by_cases hv : v ∈ us
    · rw [union_cons_of_mem hv, ih, union_cons_of_mem (mem_union.2 (.inr hv))]
    · rw [union_cons_of_not_mem hv, ih, union_append, ← List.singleton_append (l := vs),
        union_append]

end TypeNode

/-! ### First occurrences -/

section

variable {α : Type} [BEq α] [LawfulBEq α] {a : α} {as bs : List α}

theorem eraseDups_concat_of_mem (h : a ∈ as) : (as ++ [a]).eraseDups = as.eraseDups := by
  simp [List.eraseDups_append, List.removeAll, h]

theorem eraseDups_concat_of_not_mem (h : a ∉ as) :
    (as ++ [a]).eraseDups = as.eraseDups ++ [a] := by
  simp [List.eraseDups_append, List.removeAll, h, List.eraseDups_cons]

theorem eraseDups_eraseDups (as : List α) : as.eraseDups.eraseDups = as.eraseDups := by
  induction as using List.reverseRecOn with
  | nil => rfl
  | append_singleton as a ih =>
    by_cases ha : a ∈ as
    · rw [eraseDups_concat_of_mem ha, ih]
    · rw [eraseDups_concat_of_not_mem ha,
        eraseDups_concat_of_not_mem (mt List.mem_eraseDups.1 ha), ih]

/-- First occurrences may be taken of two parts first. -/
theorem eraseDups_append_eraseDups (as bs : List α) :
    (as.eraseDups ++ bs.eraseDups).eraseDups = (as ++ bs).eraseDups := by
  induction bs using List.reverseRecOn with
  | nil => simp [eraseDups_eraseDups]
  | append_singleton bs b ih =>
    have hmem : b ∈ as.eraseDups ++ bs.eraseDups ↔ b ∈ as ++ bs := by simp
    by_cases hb : b ∈ bs
    · rw [eraseDups_concat_of_mem hb, ih, ← List.append_assoc,
        eraseDups_concat_of_mem (List.mem_append_right as hb)]
    · rw [eraseDups_concat_of_not_mem hb, ← List.append_assoc, ← List.append_assoc]
      by_cases hab : b ∈ as ++ bs
      · rw [eraseDups_concat_of_mem hab, eraseDups_concat_of_mem (hmem.2 hab), ih]
      · rw [eraseDups_concat_of_not_mem hab, eraseDups_concat_of_not_mem (mt hmem.1 hab), ih]

end

/-! ### Joining occurrences -/

theorem joinDescriptions_empty_left (b : String) : joinDescriptions "" b = b := by
  simp [joinDescriptions]

theorem joinDescriptions_empty_right (a : String) : joinDescriptions a "" = a := by
  by_cases ha : a = ""
  · rw [ha, joinDescriptions_empty_left]
  · simp [joinDescriptions, ha]

theorem joinDescriptions_of_ne {a b : String} (ha : a ≠ "") (hb : b ≠ "") :
    joinDescriptions a b = a ++ "\n" ++ b := by
  rw [joinDescriptions, if_neg (by simpa using ha), if_neg (by simpa using hb)]

theorem joinDescriptions_assoc (a b c : String) :
    joinDescriptions (joinDescriptions a b) c = joinDescriptions a (joinDescriptions b c) := by
  by_cases ha : a = ""
  · rw [ha, joinDescriptions_empty_left, joinDescriptions_empty_left]
  · by_cases hb : b = ""
    · rw [hb, joinDescriptions_empty_left, joinDescriptions_empty_right]
    · by_cases hc : c = ""
      · rw [hc, joinDescriptions_empty_right, joinDescriptions_empty_right]
      · have hab : joinDescriptions a b ≠ "" := by simp [joinDescriptions_of_ne ha hb]
        have hbc : joinDescriptions b c ≠ "" := by simp [joinDescriptions_of_ne hb hc]
        rw [joinDescriptions_of_ne hab hc, joinDescriptions_of_ne ha hbc,
          joinDescriptions_of_ne ha hb, joinDescriptions_of_ne hb hc]
        simp only [String.append_assoc]

/-- The descriptions of several occurrences, each on lines of its own but for the empty ones. -/
theorem foldl_joinDescriptions (a : String) (bs : List String) :
    bs.foldl joinDescriptions a = "\n".intercalate ((a :: bs).filter (· ≠ "")) := by
  induction bs generalizing a with
  | nil => by_cases ha : a = "" <;> simp [ha]
  | cons b bs ih =>
    rw [List.foldl_cons, ih]
    by_cases ha : a = ""
    · simp [ha, joinDescriptions_empty_left]
    · by_cases hb : b = ""
      · simp [ha, hb, joinDescriptions_empty_right]
      · have hab : joinDescriptions a b ≠ "" := by simp [joinDescriptions_of_ne ha hb]
        simp only [List.filter_cons, ne_eq, ha, hb, hab, not_false_eq_true, decide_true, if_true,
          String.intercalate_cons_cons]
        cases hrest : bs.filter fun x => decide (x ≠ "") with
        | nil => simp only [String.intercalate_singleton, joinDescriptions_of_ne ha hb]
        | cons d ds =>
          simp only [String.intercalate_cons_cons, joinDescriptions_of_ne ha hb,
            String.append_assoc]

namespace TypeField

variable {f g : TypeField} {fs gs : List TypeField} {name : String}

instance : Std.Associative join where
  assoc f g h := by
    simp only [join, TypeNode.union_union, Bool.and_assoc, joinDescriptions_assoc]

/-- What the joined occurrences of a field are, part by part. -/
theorem foldl_join_eq (f : TypeField) (gs : List TypeField) :
    gs.foldl join f =
      { name := f.name
        types := TypeNode.union f.types (gs.flatMap types)
        required := (f :: gs).all required
        description := "\n".intercalate (((f :: gs).map description).filter (· ≠ "")) } := by
  rw [List.map_cons, ← foldl_joinDescriptions]
  induction gs generalizing f with
  | nil =>
    obtain ⟨name, types, required, description⟩ := f
    simp [TypeNode.union]
  | cons g gs ih =>
    rw [List.foldl_cons, ih]
    simp [join, TypeNode.union_append, Bool.and_assoc]

/-- The fields of a name. -/
def occurrences (name : String) (fields : List TypeField) : List TypeField :=
  fields.filter fun f => f.name = name

theorem occurrences_append :
    occurrences name (fs ++ gs) = occurrences name fs ++ occurrences name gs :=
  List.filter_append fs gs

/-- Several occurrences as one, if there are any. -/
def joinAll : List TypeField → Option TypeField
  | [] => none
  | f :: fs => some (fs.foldl join f)

@[simp] theorem joinAll_toList (o : Option TypeField) : joinAll o.toList = o := by
  cases o <;> rfl

/-- Occurrences may be joined in two parts first. -/
theorem joinAll_append :
    joinAll (fs ++ gs) = joinAll ((joinAll fs).toList ++ (joinAll gs).toList) := by
  cases fs with
  | nil => cases gs <;> rfl
  | cons f fs =>
    cases gs with
    | nil => simp [joinAll]
    | cons g gs =>
      simp only [joinAll, List.cons_append, List.foldl_append, List.foldl_cons, List.foldl_assoc,
        Option.toList_some, List.foldl_nil, List.nil_append]

/-- Among fields with distinct names at most one has the name. -/
theorem occurrences_eq_of_nodup (hfs : (fs.map TypeField.name).Nodup) :
    occurrences name fs = (fs.find? (·.name = name)).toList := by
  induction fs with
  | nil => rfl
  | cons f fs ih =>
    rw [List.map_cons, List.nodup_cons] at hfs
    by_cases hf : f.name = name
    · have hnone : occurrences name fs = [] := by
        apply List.filter_eq_nil_iff.2
        intro g hg hgname
        apply hfs.1
        rw [hf, ← of_decide_eq_true hgname]
        exact List.mem_map_of_mem hg
      rw [occurrences] at hnone
      simp [occurrences, hf, hnone]
    · have hskip : occurrences name (f :: fs) = occurrences name fs := by simp [occurrences, hf]
      simp [hskip, ih hfs.2, hf]

/-! ### Merged fields -/

theorem find?_insert : (f.insert gs).find? (·.name = name) =
    joinAll ((gs.find? (·.name = name)).toList ++ occurrences name [f]) := by
  induction gs with
  | nil => by_cases hf : f.name = name <;> simp [insert, occurrences, joinAll, hf]
  | cons g gs ih =>
    by_cases hsame : g.name = f.name
    · rw [insert, if_pos hsame]
      by_cases hf : f.name = name
      · simp [occurrences, joinAll, join, hsame, hf]
      · simp [occurrences, join, hsame, hf]
    · rw [insert, if_neg hsame]
      by_cases hg : g.name = name
      · have hf : f.name ≠ name := fun hf => hsame (hg.trans hf.symm)
        simp [occurrences, joinAll, hg, hf]
      · simp [hg, ih]

theorem names_insert : (f.insert gs).map TypeField.name =
    if f.name ∈ gs.map TypeField.name then gs.map TypeField.name
    else gs.map TypeField.name ++ [f.name] := by
  induction gs with
  | nil => rfl
  | cons g gs ih =>
    by_cases hsame : g.name = f.name
    · simp [insert, join, hsame]
    · rw [insert, if_neg hsame, List.map_cons, ih]
      by_cases hmem : f.name ∈ gs.map TypeField.name
      · simp only [hmem, if_true, List.map_cons, List.mem_cons, or_true]
      · have hne : f.name ≠ g.name := Ne.symm hsame
        simp only [hmem, hne, if_false, List.map_cons, List.mem_cons, or_false, List.cons_append]

theorem merge_concat : merge (fs ++ [f]) = f.insert (merge fs) := by
  simp [merge]

/-- The merged field of a name joins the occurrences of the name. -/
theorem find?_merge (name : String) (fields : List TypeField) :
    (merge fields).find? (·.name = name) = joinAll (occurrences name fields) := by
  induction fields using List.reverseRecOn with
  | nil => rfl
  | append_singleton fields f ih =>
    have hone : occurrences name [f] = (joinAll (occurrences name [f])).toList := by
      by_cases hf : f.name = name <;> simp [occurrences, joinAll, hf]
    have hjoin := @joinAll_append (occurrences name fields) (occurrences name [f])
    rw [← hone] at hjoin
    rw [merge_concat, find?_insert, ih, occurrences_append, hjoin]

theorem occurrences_merge (name : String) (fields : List TypeField) :
    occurrences name (merge fields) = (joinAll (occurrences name fields)).toList := by
  rw [occurrences_eq_of_nodup (nodup_names_merge fields), find?_merge]

/-- Names stand in the order of their first occurrences. -/
theorem names_merge (fields : List TypeField) :
    (merge fields).map TypeField.name = (fields.map TypeField.name).eraseDups := by
  induction fields using List.reverseRecOn with
  | nil => rfl
  | append_singleton fields f ih =>
    rw [merge_concat, names_insert, ih, List.map_append]
    by_cases hmem : f.name ∈ fields.map TypeField.name
    · rw [if_pos (List.mem_eraseDups.2 hmem)]
      exact (eraseDups_concat_of_mem hmem).symm
    · rw [if_neg (mt List.mem_eraseDups.1 hmem)]
      exact (eraseDups_concat_of_not_mem hmem).symm

/-- Fields with distinct names are the fields that are found under their names. -/
theorem filterMap_find?_names (hfs : (fs.map TypeField.name).Nodup) :
    (fs.map TypeField.name).filterMap (fun name => fs.find? (·.name = name)) = fs := by
  induction fs with
  | nil => rfl
  | cons f fs ih =>
    rw [List.map_cons, List.nodup_cons] at hfs
    have htail : (fs.map TypeField.name).filterMap (fun name => (f :: fs).find? (·.name = name)) =
        (fs.map TypeField.name).filterMap fun name => fs.find? (·.name = name) := by
      apply List.filterMap_congr
      intro name hname
      have hne : f.name ≠ name := fun h => hfs.1 (h ▸ hname)
      simp [hne]
    rw [List.map_cons, List.filterMap_cons, htail, ih hfs.2]
    simp

/-- Fields are merged alike if they have the same first names and each name is merged alike. -/
theorem merge_congr {fields others : List TypeField}
    (hnames : (fields.map TypeField.name).eraseDups = (others.map TypeField.name).eraseDups)
    (hjoin : ∀ name, joinAll (occurrences name fields) = joinAll (occurrences name others)) :
    merge fields = merge others := by
  rw [← filterMap_find?_names (nodup_names_merge fields),
    ← filterMap_find?_names (nodup_names_merge others), names_merge, names_merge, hnames]
  simp only [find?_merge, hjoin]

/-- What a merged field is, told by the fields of its name. -/
structure IsMergeOf (group : List TypeField) (f : TypeField) : Prop where
  required : f.required = true ↔ ∀ g ∈ group, g.required = true
  description : f.description = "\n".intercalate ((group.map description).filter (· ≠ ""))
  /-- The types of the first field stand first as they are; of the others each new type follows
  once. -/
  types : ∃ first later, group = first :: later
    ∧ f.types = first.types ++ ((later.flatMap types).removeAll first.types).eraseDups
  mem_types : ∀ t, t ∈ f.types ↔ ∃ g ∈ group, t ∈ g.types

theorem isMergeOf_of_mem_merge {fields : List TypeField} (hf : f ∈ merge fields) :
    f.IsMergeOf (occurrences f.name fields) := by
  have hfound : f ∈ (joinAll (occurrences f.name fields)).toList := by
    rw [← occurrences_merge]
    exact List.mem_filter.2 ⟨hf, decide_eq_true rfl⟩
  cases hgroup : occurrences f.name fields with
  | nil => simp [hgroup, joinAll] at hfound
  | cons first later =>
    have heq : f = later.foldl join first := by simpa [hgroup, joinAll] using hfound
    rw [foldl_join_eq] at heq
    rw [heq]
    refine ⟨List.all_eq_true, rfl, ⟨first, later, rfl, TypeNode.union_eq _ _⟩, ?_⟩
    intro t
    simp [TypeNode.mem_union]

/-- Merged fields are the groups of the fields of each name, the names in the order of their first
fields.  Merging again changes nothing, nor does merging parts first. -/
theorem merge_groups (fields others : List TypeField) :
    (merge fields).map TypeField.name = (fields.map TypeField.name).eraseDups
    ∧ (∀ f ∈ merge fields, f.IsMergeOf (occurrences f.name fields))
    ∧ merge (merge fields) = merge fields
    ∧ merge (merge fields ++ merge others) = merge (fields ++ others) := by
  have hparts (others : List TypeField) :
      merge (merge fields ++ merge others) = merge (fields ++ others) := by
    apply merge_congr
    · simp only [List.map_append, names_merge, eraseDups_append_eraseDups]
    · intro name
      simp only [occurrences_append, occurrences_merge]
      exact joinAll_append.symm
  refine ⟨names_merge fields, fun f hf => isMergeOf_of_mem_merge hf, ?_, hparts others⟩
  simpa [merge] using hparts []

end TypeField

end ClientScribe
