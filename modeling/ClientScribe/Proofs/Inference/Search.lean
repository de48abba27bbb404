import ClientScribe.Inference.Refine
import ClientScribe.Proofs.Reference.Tree
import Mathlib.Logic.Basic

/-!
The search for a type by its tag.  From a list of types the search can go down into the elements of
the arrays in it, level by level.  It finds a type exactly if one with the tag can be reached so;
and what it finds is the first in its own list, under arrays in whose lists the tag does not occur
and before which no array has it inside.
-/

namespace ClientScribe.TypeNode

/-- A list on the way down, with the array in it that the way goes into. -/
structure Level where
  before : List TypeNode
  array : TypeNode
  after : List TypeNode

/-- The types among which the array of a level stands. -/
def Level.siblings (l : Level) : List TypeNode := l.before ++ l.array :: l.after

/-- The ways down from a list of types to the list of the elements of an array inside. -/
inductive Descent : List TypeNode → List Level → List TypeNode → Prop
  | stay (ts : List TypeNode) : Descent ts [] ts
  | down {l : Level} {us vs : List TypeNode} {levels : List Level} (array : l.array.tag = "array")
    (elements : l.array.arrayTypes = some us) (further : Descent us levels vs) :
    Descent l.siblings (l :: levels) vs

/-- A type is in a list or, at any depth, among the elements of an array in it. -/
def IsWithin (ts : List TypeNode) (n : TypeNode) : Prop :=
  ∃ levels siblings, Descent ts levels siblings ∧ n ∈ siblings

/-- A type is, at any depth, among the elements of an array. -/
def IsInside (a n : TypeNode) : Prop :=
  a.tag = "array" ∧ ∃ us, a.arrayTypes = some us ∧ IsWithin us n

/-- A type is the first with a tag: it is the first in its list, the tag is in no list on the way
down to it, and no array in front of those on the way has the tag inside. -/
def IsFirst (tag : String) (ts : List TypeNode) (n : TypeNode) : Prop :=
  n.tag = tag ∧ ∃ levels before after, Descent ts levels (before ++ n :: after)
    ∧ (∀ m ∈ before, m.tag ≠ tag)
    ∧ ∀ l ∈ levels, (∀ m ∈ l.siblings, m.tag ≠ tag)
      ∧ ∀ a ∈ l.before, ∀ m, IsInside a m → m.tag ≠ tag

variable {tag : String} {ts us : List TypeNode} {a n : TypeNode}

/-! ### Ways down -/

theorem isWithin_of_mem (h : n ∈ ts) : IsWithin ts n := ⟨[], ts, .stay ts, h⟩

/-- What is within a list is in it, or inside an array in it. -/
theorem isWithin_iff : IsWithin ts n ↔ n ∈ ts ∨ ∃ a ∈ ts, IsInside a n := by
  constructor
  · rintro ⟨levels, siblings, hdescent, hn⟩
    cases hdescent with
    | stay => exact .inl hn
    | down harray helements hfurther =>
      exact .inr ⟨_, List.mem_append_cons_self, harray, _, helements, _, _, hfurther, hn⟩
  · rintro (hn | ⟨a, ha, harray, us, helements, levels, siblings, hdescent, hn⟩)
    · exact isWithin_of_mem hn
    · obtain ⟨before, after, rfl⟩ := List.append_of_mem ha
      exact ⟨_, _, .down (l := ⟨before, a, after⟩) harray helements hdescent, hn⟩

/-- The first type with a tag is in the list, or it is the first inside an array of a list in which
the tag is not and in which no earlier array has it inside. -/
theorem isFirst_iff : IsFirst tag ts n ↔
    (n.tag = tag ∧ ∃ before after, ts = before ++ n :: after ∧ ∀ m ∈ before, m.tag ≠ tag)
      ∨ (∀ m ∈ ts, m.tag ≠ tag) ∧ ∃ before a after us, ts = before ++ a :: after
        ∧ (∀ b ∈ before, ∀ m, IsInside b m → m.tag ≠ tag) ∧ a.tag = "array"
        ∧ a.arrayTypes = some us ∧ IsFirst tag us n := by
  constructor
  · rintro ⟨htag, levels, before, after, hdescent, hbefore, hlevels⟩
    cases levels with
    | nil =>
      generalize hlist : before ++ n :: after = siblings at hdescent
      cases hdescent
      exact .inl ⟨htag, before, after, hlist.symm, hbefore⟩
    | cons l levels =>
      generalize hlist : before ++ n :: after = siblings at hdescent
      cases hdescent with
      | down harray helements hfurther =>
        obtain ⟨⟨hsiblings, hearlier⟩, hlevels⟩ := List.forall_mem_cons.1 hlevels
        subst hlist
        exact .inr ⟨hsiblings, l.before, l.array, l.after, _, rfl, hearlier, harray, helements,
          htag, levels, before, after, hfurther, hbefore, hlevels⟩
  · rintro (⟨htag, before, after, rfl, hbefore⟩ | ⟨hsiblings, before, a, after, us, rfl, hearlier,
      harray, helements, htag, levels, before', after', hdescent, hbefore, hlevels⟩)
    · exact ⟨htag, [], before, after, .stay _, hbefore, List.forall_mem_nil _⟩
    · have hdown := Descent.down (l := ⟨before, a, after⟩) harray helements hdescent
      exact ⟨htag, _, before', after', hdown, hbefore,
        List.forall_mem_cons.2 ⟨⟨hsiblings, hearlier⟩, hlevels⟩⟩

/-! ### The search -/

theorem findInside_eq (tag : String) (a : TypeNode) : findInside tag a =
    if a.tag = "array" then a.arrayTypes.bind (find tag) else none := by
  obtain ⟨t, startsWith, possibleValues, fields, id, _ | ts⟩ := a <;>
    simp [findInside, findInside?, find]

theorem findDeeper_eq_findSome? (tag : String) (ts : List TypeNode) :
    findDeeper tag ts = ts.findSome? (findInside tag) := by
  induction ts with
  | nil => rfl
  | cons t ts ih =>
    rw [findDeeper, List.findSome?_cons, ih]
    cases findInside tag t <;> rfl

/-- What the search among types gives is right: nothing exactly if no type with the tag is within
them, and otherwise the first. -/
structure IsFound (tag : String) (ts : List TypeNode) : Prop where
  none_iff : find tag ts = none ↔ ∀ n, IsWithin ts n → n.tag ≠ tag
  some_iff (n : TypeNode) : find tag ts = some n ↔ IsFirst tag ts n

theorem findInside_eq_none_iff (h : ∀ us, a.arrayTypes = some us → IsFound tag us) :
    findInside tag a = none ↔ ∀ n, IsInside a n → n.tag ≠ tag := by
  rw [findInside_eq]
  constructor
  · rintro hnone n ⟨harray, us, helements, hn⟩
    rw [if_pos harray, helements] at hnone
    exact (h us helements).none_iff.1 hnone n hn
  · intro hinside
    split
    · rename_i harray
      cases helements : a.arrayTypes with
      | none => rfl
      | some us =>
        exact (h us helements).none_iff.2 fun n hn => hinside n ⟨harray, us, helements, hn⟩
    · rfl

theorem findInside_eq_some_iff (h : ∀ us, a.arrayTypes = some us → IsFound tag us) :
    findInside tag a = some n ↔
      a.tag = "array" ∧ ∃ us, a.arrayTypes = some us ∧ IsFirst tag us n := by
  rw [findInside_eq]
  constructor
  · intro hsome
    split at hsome
    · rename_i harray
      obtain ⟨us, helements, hfind⟩ := Option.bind_eq_some_iff.1 hsome
      exact ⟨harray, us, helements, ((h us helements).some_iff n).1 hfind⟩
    · exact absurd hsome (by simp)
  · rintro ⟨harray, us, helements, hfirst⟩
    rw [if_pos harray, helements]
    exact ((h us helements).some_iff n).2 hfirst

/-- The search is right about a list if it is right about the elements of each array in it. -/
theorem isFound_of_elements
    (h : ∀ a ∈ ts, ∀ us, a.arrayTypes = some us → IsFound tag us) : IsFound tag ts where
  none_iff := by
    rw [find, Option.or_eq_none_iff, List.find?_eq_none, findDeeper_eq_findSome?,
      List.findSome?_eq_none_iff]
    simp only [isWithin_iff, beq_iff_eq]
    constructor
    · rintro ⟨hhere, hdeeper⟩ n (hn | ⟨a, ha, hn⟩)
      · exact hhere n hn
      · exact (findInside_eq_none_iff (h a ha)).1 (hdeeper a ha) n hn
    · intro hwithin
      refine ⟨fun n hn => hwithin n (.inl hn), fun a ha => ?_⟩
      exact (findInside_eq_none_iff (h a ha)).2 fun n hn => hwithin n (.inr ⟨a, ha, hn⟩)
  some_iff n := by
    rw [find, Option.or_eq_some_iff, List.find?_eq_some_iff_append, List.find?_eq_none,
      findDeeper_eq_findSome?, List.findSome?_eq_some_iff, isFirst_iff]
    simp only [beq_iff_eq, Bool.not_eq_true', beq_eq_false_iff_ne]
    refine or_congr_right (and_congr_right fun _ => ?_)
    constructor
    · rintro ⟨before, a, after, rfl, hsome, hearlier⟩
      obtain ⟨harray, us, helements, hfirst⟩ :=
        (findInside_eq_some_iff (h a List.mem_append_cons_self)).1 hsome
      refine ⟨before, a, after, us, rfl, fun b hb => ?_, harray, helements, hfirst⟩
      exact (findInside_eq_none_iff (h b (List.mem_append_left _ hb))).1 (hearlier b hb)
    · rintro ⟨before, a, after, us, rfl, hearlier, harray, helements, hfirst⟩
      refine ⟨before, a, after, rfl, ?_, fun b hb => ?_⟩
      · exact (findInside_eq_some_iff (h a List.mem_append_cons_self)).2
          ⟨harray, us, helements, hfirst⟩
      · exact (findInside_eq_none_iff (h b (List.mem_append_left _ hb))).2 (hearlier b hb)

theorem isFound_elements (tag : String) (a : TypeNode) :
    ∀ us, a.arrayTypes = some us → IsFound tag us := by
  apply TypeNode.induction (Q := fun _ => True)
    (P := fun a => ∀ us, a.arrayTypes = some us → IsFound tag us)
  · intro a _ helements us hus
    exact isFound_of_elements (helements us hus)
  · intro f _
    trivial

theorem isFound (tag : String) (ts : List TypeNode) : IsFound tag ts :=
  isFound_of_elements fun a _ => isFound_elements tag a

theorem IsFirst.isWithin (h : IsFirst tag ts n) : IsWithin ts n := by
  obtain ⟨-, levels, before, after, hdescent, -⟩ := h
  exact ⟨levels, _, hdescent, List.mem_append_cons_self⟩

/-- The search finds a type exactly if one with the tag is within the list, and then the first.
What only fields lead to, or the elements of something that is no array, is never found. -/
theorem find_first (tag : String) (ts : List TypeNode) :
    ((find tag ts).isSome ↔ ∃ n, n.tag = tag ∧ IsWithin ts n)
      ∧ (∀ n, find tag ts = some n ↔ IsFirst tag ts n)
      ∧ ∀ n, ¬ IsWithin ts n → find tag ts ≠ some n := by
  have hfound := isFound tag ts
  refine ⟨?_, hfound.some_iff, fun n hn hfind => hn ((hfound.some_iff n).1 hfind).isWithin⟩
  rw [Option.isSome_iff_ne_none, ne_eq, hfound.none_iff]
  simp only [not_forall, not_not, exists_prop, and_comm]

end ClientScribe.TypeNode
