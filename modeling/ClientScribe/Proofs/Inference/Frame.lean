import ClientScribe.Proofs.Inference.Place
import ClientScribe.Proofs.Text.Occurrence
import Mathlib.Data.List.Perm.Basic

/-!
What refinements leave alone.  The types of a token keep their tags and their shape, and only the
first string and the first object among them are refined, by what their refinements are about.  So
refinements may be made in any order, and made again.
-/

namespace ClientScribe

/-! ### Refinements of one type -/

namespace Refinement

variable (description : String) (r s : Refinement) (n : TypeNode)

theorem isLocal_apply : TypeNode.IsLocal (r.apply description) where
  tag n := by cases r <;> simp only [apply] <;> split <;> rfl
  elements n ts := by cases r <;> simp only [apply] <;> split <;> rfl

/-- A refinement says nothing but what it is about. -/
theorem sameApart_apply :
    TypeNode.SameApart (r.tag = "string") (r.tag = "object") n (r.apply description n) := by
  cases r <;> simp only [apply] <;> split <;> constructor <;> simp [Refinement.tag]

theorem apply_comm :
    r.apply description (s.apply description n) = s.apply description (r.apply description n) := by
  cases r <;> cases s <;> simp only [apply] <;> split <;> simp only [*] <;> split <;> rfl

theorem apply_apply_self :
    r.apply description (r.apply description n) = r.apply description n := by
  cases r <;> simp only [apply] <;> split <;> simp only [*]

end Refinement

/-! ### Refinements of the types of a field -/

namespace TypeNode

variable {description : String} {types : List TypeNode}

/-- Makes a refinement of the first type that it is about. -/
def refineFirst (description : String) (types : List TypeNode) (r : Refinement) : List TypeNode :=
  change r.tag (r.apply description) types

/-- Makes refinements one after another. -/
def refine (description : String) (rs : List Refinement) (types : List TypeNode) : List TypeNode :=
  rs.foldl (refineFirst description) types

theorem infer_eq_refine (token description : String) :
    infer token description =
      refine description [.startsWith, .possibleValues, .objectFields, .objectReference]
        (ofToken token) := rfl

/-- The place of the first type with a tag among the types of a field. -/
def place? (tag : String) (types : List TypeNode) : Option (List Nat) :=
  locate tag (arrayOf types)

theorem arrayOf_injective {ts us : List TypeNode} (h : arrayOf ts = arrayOf us) : ts = us :=
  Option.some.inj (congrArg TypeNode.arrayTypes h)

theorem arrayOf_refineFirst (r : Refinement) :
    arrayOf (refineFirst description types r) =
      modifyFirst r.tag (r.apply description) (arrayOf types) := arrayOf_change _ _ _

/-- Whatever is refined, the first type with a tag stays where it is. -/
theorem locate_modifyFirst (tag : String) (r : Refinement) (n : TypeNode) :
    locate tag (modifyFirst r.tag (r.apply description) n) = locate tag n := by
  rw [modifyFirst]
  cases locate r.tag n with
  | none => rfl
  | some place => exact locate_modifyAt (r.isLocal_apply description) place n

theorem modifyFirst_comm (r s : Refinement) (n : TypeNode) :
    modifyFirst s.tag (s.apply description) (modifyFirst r.tag (r.apply description) n) =
      modifyFirst r.tag (r.apply description) (modifyFirst s.tag (s.apply description) n) := by
  rw [modifyFirst, locate_modifyFirst]
  conv_rhs => rw [modifyFirst, locate_modifyFirst]
  rw [modifyFirst, modifyFirst]
  cases hs : locate s.tag n with
  | none => rfl
  | some q =>
    cases hr : locate r.tag n with
    | none => rfl
    | some p =>
      simp only [Option.map_some, Option.getD_some]
      by_cases hpq : p = q
      · rw [hpq, modifyAt_modifyAt_self, modifyAt_modifyAt_self]
        congr 1
        funext m
        exact s.apply_comm description r m
      · exact modifyAt_comm (s.isLocal_apply description) (r.isLocal_apply description)
          (Ne.symm hpq) n

theorem modifyFirst_modifyFirst_self (r : Refinement) (n : TypeNode) :
    modifyFirst r.tag (r.apply description) (modifyFirst r.tag (r.apply description) n) =
      modifyFirst r.tag (r.apply description) n := by
  rw [modifyFirst, locate_modifyFirst, modifyFirst]
  cases locate r.tag n with
  | none => rfl
  | some p =>
    simp only [Option.map_some, Option.getD_some]
    rw [modifyAt_modifyAt_self]
    congr 1
    funext m
    exact r.apply_apply_self description m

theorem refineFirst_comm (r s : Refinement) :
    refineFirst description (refineFirst description types r) s =
      refineFirst description (refineFirst description types s) r := by
  apply arrayOf_injective
  simp only [arrayOf_refineFirst]
  exact modifyFirst_comm r s _

theorem refineFirst_refineFirst_self (r : Refinement) :
    refineFirst description (refineFirst description types r) r =
      refineFirst description types r := by
  apply arrayOf_injective
  simp only [arrayOf_refineFirst]
  exact modifyFirst_modifyFirst_self r _

/-- What is made once more later on need not be made now. -/
theorem refine_refineFirst_of_mem {rs : List Refinement} {r : Refinement} (h : r ∈ rs) :
    refine description rs (refineFirst description types r) = refine description rs types := by
  induction rs generalizing types with
  | nil => exact absurd h List.not_mem_nil
  | cons s rs ih =>
    rw [refine, List.foldl_cons, refine, List.foldl_cons]
    rcases List.mem_cons.1 h with rfl | h
    · rw [refineFirst_refineFirst_self]
    · rw [refineFirst_comm]
      exact ih h

theorem refine_append_of_subset {rs ss : List Refinement} (h : rs ⊆ ss) :
    refine description (rs ++ ss) types = refine description ss types := by
  induction rs generalizing types with
  | nil => rfl
  | cons r rs ih =>
    obtain ⟨hr, hrs⟩ := List.cons_subset.1 h
    rw [← refine_refineFirst_of_mem hr]
    exact ih hrs

/-- Refinements may be made in any order, and any number of times. -/
theorem refine_congr {rs ss : List Refinement} (h : rs ⊆ ss) (h' : ss ⊆ rs) :
    refine description rs types = refine description ss types := by
  have : RightCommutative (refineFirst description) := ⟨fun _ r s => refineFirst_comm r s⟩
  calc refine description rs types
    _ = refine description (ss ++ rs) types := (refine_append_of_subset h').symm
    _ = refine description (rs ++ ss) types := List.perm_append_comm.foldl_eq types
    _ = refine description ss types := refine_append_of_subset h

/-! ### What stays -/

theorem SameApart.trans {string object : Prop} {n m k : TypeNode} (h : SameApart string object n m)
    (h' : SameApart string object m k) : SameApart string object n k where
  tag := h'.tag.trans h.tag
  startsWith hs := (h'.startsWith hs).trans (h.startsWith hs)
  possibleValues hs := (h'.possibleValues hs).trans (h.possibleValues hs)
  fields ho := (h'.fields ho).trans (h.fields ho)
  id ho := (h'.id ho).trans (h.id ho)
  elements := h'.elements.trans h.elements

/-- What stands at a place agrees with what stood there, but for the refinements of the first string
and of the first object. -/
def AgreesAt (types types' : List TypeNode) (place : List Nat) : Prop :=
  Option.Rel (SameApart (place? "string" types = some place) (place? "object" types = some place))
    (at? place (arrayOf types)) (at? place (arrayOf types'))

theorem place?_refineFirst (tag : String) (r : Refinement) :
    place? tag (refineFirst description types r) = place? tag types := by
  rw [place?, arrayOf_refineFirst, locate_modifyFirst, place?]

theorem agreesAt_refineFirst (r : Refinement) (place : List Nat) :
    AgreesAt types (refineFirst description types r) place := by
  rw [AgreesAt, arrayOf_refineFirst, modifyFirst]
  cases hfirst : locate r.tag (arrayOf types) with
  | none => exact rel_sameApart_refl _
  | some first =>
    rw [Option.map_some, Option.getD_some]
    by_cases hplace : place = first
    · subst hplace
      rw [at?_modifyAt_self]
      cases at? place (arrayOf types) with
      | none => exact .none
      | some n =>
        have hsame := r.sameApart_apply description n
        have htag {tag : String} (h : ¬ place? tag types = some place) : ¬ r.tag = tag := by
          rintro rfl
          exact h hfirst
        exact .some ⟨hsame.tag, fun h => hsame.startsWith (htag h),
          fun h => hsame.possibleValues (htag h), fun h => hsame.fields (htag h),
          fun h => hsame.id (htag h), hsame.elements⟩
    · exact at?_modifyAt_of_ne (r.isLocal_apply description) hplace _

theorem rel_sameApart_trans {string object : Prop} {a b c : Option TypeNode}
    (h : Option.Rel (SameApart string object) a b) (h' : Option.Rel (SameApart string object) b c) :
    Option.Rel (SameApart string object) a c := by
  cases h with
  | none => exact h'
  | some h =>
    cases h' with
    | some h' => exact .some (h.trans h')

theorem agreesAt_refine (rs : List Refinement) (place : List Nat) :
    AgreesAt types (refine description rs types) place := by
  induction rs generalizing types with
  | nil => exact rel_sameApart_refl _
  | cons r rs ih =>
    have hrest : AgreesAt (refineFirst description types r)
        (refine description rs (refineFirst description types r)) place := ih
    rw [AgreesAt, place?_refineFirst, place?_refineFirst] at hrest
    exact rel_sameApart_trans (agreesAt_refineFirst r place) hrest

theorem isSome_eq_of_rel {α β : Type} {R : α → β → Prop} {a : Option α} {b : Option β}
    (h : Option.Rel R a b) : b.isSome = a.isSome := by
  cases h <;> rfl

theorem at?_singleton (i : Nat) (ts : List TypeNode) : at? [i] (arrayOf ts) = ts[i]? := by
  cases h : ts[i]? <;> simp [at?, arrayOf, plain, h]

/-- There are as many alternatives as before. -/
theorem length_refine (rs : List Refinement) :
    (refine description rs types).length = types.length := by
  have hsome (i : Nat) : (refine description rs types)[i]?.isSome = types[i]?.isSome := by
    have h : AgreesAt types (refine description rs types) [i] := agreesAt_refine rs [i]
    rw [AgreesAt, at?_singleton, at?_singleton] at h
    exact isSome_eq_of_rel h
  have hlt (i : Nat) : i < (refine description rs types).length ↔ i < types.length := by
    simpa using congrArg (· = true) (hsome i)
  exact Nat.le_antisymm (Nat.le_of_not_lt fun h => absurd ((hlt _).1 h) (Nat.lt_irrefl _))
    (Nat.le_of_not_lt fun h => absurd ((hlt _).2 h) (Nat.lt_irrefl _))

/-! ### Tags -/

/-- A type, or one below it, has the tag. -/
inductive HasTag (tag : String) : TypeNode → Prop
  | here {n : TypeNode} (h : n.tag = tag) : HasTag tag n
  | element {n t : TypeNode} {ts : List TypeNode} (harray : n.arrayTypes = some ts) (ht : t ∈ ts)
    (h : HasTag tag t) : HasTag tag n
  | member {n t : TypeNode} {f : TypeField} {fs : List TypeField} (hinline : n.fields = some fs)
    (hf : f ∈ fs) (ht : t ∈ f.types) (h : HasTag tag t) : HasTag tag n

theorem hasTag_plain_iff {tag t : String} : HasTag tag (plain t) ↔ t = tag := by
  constructor
  · intro h
    cases h with
    | here h => exact h
    | element harray _ _ => exact nomatch harray
    | member hinline _ _ _ => exact nomatch hinline
  · exact fun h => .here h

theorem hasTag_arrayOf_iff {tag : String} {ts : List TypeNode} :
    HasTag tag (arrayOf ts) ↔ "array" = tag ∨ ∃ t ∈ ts, HasTag tag t := by
  constructor
  · intro h
    cases h with
    | here h => exact .inl h
    | element harray ht h =>
      obtain rfl := Option.some.inj harray
      exact .inr ⟨_, ht, h⟩
    | member hinline _ _ _ => exact nomatch hinline
  · rintro (h | ⟨t, ht, h⟩)
    · exact .here h
    · exact .element rfl ht h

/-- Fields named in prose are all that a refinement adds. -/
theorem hasTag_of_apply {tag : String} {r : Refinement} {n : TypeNode}
    (h : HasTag tag (r.apply description n)) : HasTag tag n ∨ tag = "unknown" := by
  have hlocal := r.isLocal_apply description
  cases h with
  | here h => exact .inl (.here ((hlocal.tag n).symm.trans h))
  | element harray ht h => exact .inl (.element ((hlocal.arrayTypes n).symm.trans harray) ht h)
  | @member _ t f fs hinline hf ht h =>
    have hfields : n.fields = some fs ∨
        fs = (Clue.fieldNames description.toList).map TypeField.named := by
      cases r <;> simp only [Refinement.apply] at hinline <;> split at hinline <;>
        first | exact .inl hinline | exact .inr (Option.some.inj hinline).symm
    rcases hfields with hfields | rfl
    · exact .inl (.member hfields hf ht h)
    · obtain ⟨name, -, rfl⟩ := List.mem_map.1 hf
      rw [List.mem_singleton.1 ht, hasTag_plain_iff] at h
      exact .inr h.symm

theorem hasTag_of_modifyAt {tag : String} {r : Refinement} {place : List Nat} {n : TypeNode}
    (h : HasTag tag (modifyAt (r.apply description) place n)) : HasTag tag n ∨ tag = "unknown" := by
  induction place generalizing n with
  | nil => exact hasTag_of_apply h
  | cons i place ih =>
    rw [modifyAt] at h
    cases h with
    | here h => exact .inl (.here h)
    | member hinline hf ht h => exact .inl (.member hinline hf ht h)
    | element harray ht h =>
      obtain ⟨ts, hts, rfl⟩ := Option.map_eq_some_iff.1 harray
      obtain ⟨j, hj⟩ := List.mem_iff_getElem?.1 ht
      rw [List.getElem?_modify] at hj
      obtain ⟨u, hu, rfl⟩ := Option.map_eq_some_iff.1 hj
      have hmem : u ∈ ts := List.mem_iff_getElem?.2 ⟨j, hu⟩
      have hbelow : HasTag tag u ∨ tag = "unknown" := by
        split at h
        · exact ih h
        · exact .inl h
      exact hbelow.imp_left fun h => .element hts hmem h

/-- Refinements bring no tag but that of a type that is not known. -/
theorem hasTag_of_refine {tag : String} {rs : List Refinement}
    (h : HasTag tag (arrayOf (refine description rs types))) :
    HasTag tag (arrayOf types) ∨ tag = "unknown" := by
  induction rs generalizing types with
  | nil => exact .inl h
  | cons r rs ih =>
    have hrest : HasTag tag (arrayOf (refineFirst description types r)) ∨ tag = "unknown" := ih h
    rcases hrest with h | h
    · rw [arrayOf_refineFirst, modifyFirst] at h
      cases hplace : locate r.tag (arrayOf types) with
      | none =>
        rw [hplace] at h
        exact .inl h
      | some place =>
        rw [hplace] at h
        exact hasTag_of_modifyAt h
    · exact .inr h

/-- A tag as types have it: not empty, without blanks around it, and not spelled as an alias. -/
structure IsProperTag (tag : String) : Prop where
  ne_empty : tag ≠ ""
  first : ∀ c ∈ tag.toList.head?, Text.isBlank c = false
  last : ∀ c ∈ tag.toList.getLast?, Text.isBlank c = false
  notAlias : tag ∉ ["float", "Boolean", "int", "integer"]

instance (tag : String) : Decidable (IsProperTag tag) :=
  decidable_of_iff (tag ≠ "" ∧ tag.toList.head?.all (!Text.isBlank ·) = true
      ∧ tag.toList.getLast?.all (!Text.isBlank ·) = true
      ∧ tag ∉ ["float", "Boolean", "int", "integer"]) (by
    simp only [Option.all_eq_true, Bool.not_eq_true']
    exact ⟨fun h => ⟨h.1, h.2.1, h.2.2.1, h.2.2.2⟩,
      fun h => ⟨h.ne_empty, h.first, h.last, h.notAlias⟩⟩)

/-- A word stands for a proper tag, whatever it is. -/
theorem isProperTag_tagOf (word : List Char) : IsProperTag (tagOf word) := by
  rw [tagOf]
  split
  · decide
  · rename_i hne
    cases halias : tagAliases.lookup (String.ofList (Text.trim word)) with
    | some tag =>
      have hproper : ∀ a ∈ tagAliases, IsProperTag a.2 := by decide
      obtain ⟨before, behind, hmem, -⟩ := List.lookup_eq_some_iff.1 halias
      exact hproper (String.ofList (Text.trim word), tag) (by rw [hmem]; simp)
    | none =>
      rw [Option.getD_none]
      refine ⟨?_, ?_, ?_, ?_⟩
      · intro hempty
        exact hne (String.ofList_eq_empty_iff.1 hempty)
      · rw [String.toList_ofList]
        exact Text.not_blank_of_mem_head?_trim
      · rw [String.toList_ofList]
        exact Text.not_blank_of_mem_getLast?_trimEnd
      · intro hmem
        have hmem : String.ofList (Text.trim word) ∈ tagAliases.map Prod.fst := hmem
        obtain ⟨a, ha, heq⟩ := List.mem_map.1 hmem
        have hnot := List.lookup_eq_none_iff.1 halias a ha
        rw [heq] at hnot
        exact absurd hnot (by simp)

/-- The tags of a token are proper. -/
theorem isProperTag_of_ofToken {token tag : String} (h : HasTag tag (arrayOf (ofToken token))) :
    IsProperTag tag := by
  have harray : IsProperTag "array" := by decide
  have hwords : ∀ a ∈ arrayWords, IsProperTag a.2 := by decide
  have helement {element : String} (hproper : IsProperTag element) {n : TypeNode}
      (hn : n ∈ [arrayOf [plain element]]) (h : HasTag tag n) : IsProperTag tag := by
    rw [List.mem_singleton.1 hn] at h
    rcases hasTag_arrayOf_iff.1 h with rfl | ⟨t, ht, h⟩
    · exact harray
    · rw [List.mem_singleton.1 ht, hasTag_plain_iff] at h
      exact h ▸ hproper
  rcases hasTag_arrayOf_iff.1 h with rfl | ⟨n, hn, h⟩
  · exact harray
  · rw [ofToken] at hn
    split at hn
    · exact helement (isProperTag_tagOf _) hn h
    · split at hn
      · rename_i element hword
        obtain ⟨before, behind, hmem, -⟩ := List.lookup_eq_some_iff.1 hword
        exact helement (hwords (token, element) (by rw [hmem]; simp)) hn h
      · obtain ⟨word, -, rfl⟩ := List.mem_map.1 hn
        rw [hasTag_plain_iff] at h
        exact h ▸ isProperTag_tagOf word

theorem isProperTag_of_infer {token description tag : String} {n : TypeNode}
    (hn : n ∈ infer token description) (h : HasTag tag n) : IsProperTag tag := by
  rw [infer_eq_refine] at hn
  rcases hasTag_of_refine (hasTag_arrayOf_iff.2 (.inr ⟨n, hn, h⟩)) with h | rfl
  · exact isProperTag_of_ofToken h
  · decide

/-! ### Alternatives -/

theorem ofToken_ne_nil (token : String) : ofToken token ≠ [] := by
  rw [ofToken]
  split
  · exact List.cons_ne_nil _ _
  · split
    · exact List.cons_ne_nil _ _
    · simpa using Text.pieces_ne_nil _ _

/-- A token gives more than one type only if it offers alternatives and names no elements. -/
theorem infix_of_length_ofToken {token : String} (h : 1 < (ofToken token).length) :
    " or ".toList <:+: token.toList ∧ ¬ "array of".toList <:+: token.toList
      ∧ ¬ "list of".toList <:+: token.toList := by
  rw [ofToken] at h
  split at h
  · exact absurd h (Nat.lt_irrefl 1)
  · rename_i helements
    rw [namesElements, Bool.or_eq_true, not_or, Text.has_iff_infix, Text.has_iff_infix] at helements
    split at h
    · exact absurd h (Nat.lt_irrefl 1)
    · rw [List.length_map] at h
      exact ⟨Text.infix_of_length_pieces h, helements⟩

/-- Inference refines the types of a token and never reshapes them: at every place stands what stood
there, but for the refinements of the first string and of the first object.  It makes no difference
in which order the four refinements are made and how often. -/
theorem infer_refines (token description : String) :
    infer token description ≠ []
    ∧ (∀ tag, find tag (ofToken token) = (place? tag (ofToken token)).bind fun place =>
      at? place (arrayOf (ofToken token)))
    ∧ (∀ place, AgreesAt (ofToken token) (infer token description) place)
    ∧ (1 < (infer token description).length →
      " or ".toList <:+: token.toList ∧ ¬ "array of".toList <:+: token.toList
        ∧ ¬ "list of".toList <:+: token.toList)
    ∧ (∀ n ∈ infer token description, ∀ tag, HasTag tag n → IsProperTag tag)
    ∧ ∀ rs : List Refinement, (∀ r, r ∈ rs) →
      refine description rs (ofToken token) = infer token description := by
  have hlength : (infer token description).length = (ofToken token).length := by
    rw [infer_eq_refine, length_refine]
  refine ⟨?_, fun tag => find_eq_bind_locate tag _, fun place => agreesAt_refine _ place, ?_,
    fun n hn tag => isProperTag_of_infer hn, ?_⟩
  · rw [← List.length_pos_iff, hlength, List.length_pos_iff]
    exact ofToken_ne_nil token
  · rw [hlength]
    exact infix_of_length_ofToken
  · intro rs hrs
    rw [infer_eq_refine]
    exact refine_congr (fun r _ => by cases r <;> decide) (fun r _ => hrs r)

/-- Refinements made backwards, and one of them twice. -/
theorem backwards_refined :
    (∀ r, r ∈ [Refinement.objectReference, .objectFields, .possibleValues, .startsWith,
      .objectReference])
    ∧ refine "String starting with **cus_**. See [Customer Object](ref:customer-object)."
        [.objectReference, .objectFields, .possibleValues, .startsWith, .objectReference]
        (ofToken "object or string") =
      [{ plain "object" with id := some "customer-object" },
        { plain "string" with startsWith := some "cus_" }] := by
  have hall : ∀ r, r ∈ [Refinement.objectReference, .objectFields, .possibleValues, .startsWith,
      .objectReference] := by
    intro r
    cases r <;> decide
  obtain ⟨-, -, -, -, -, horder⟩ := infer_refines "object or string"
    "String starting with **cus_**. See [Customer Object](ref:customer-object)."
  refine ⟨hall, ?_⟩
  rw [horder _ hall]
  have hsame : (infer "object or string"
      "String starting with **cus_**. See [Customer Object](ref:customer-object)." ==
        [{ plain "object" with id := some "customer-object" },
          { plain "string" with startsWith := some "cus_" }]) = true := by decide +kernel
  exact eq_of_beq hsame

end TypeNode

end ClientScribe
