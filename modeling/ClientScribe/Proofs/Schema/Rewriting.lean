import ClientScribe.Proofs.Schema.Hom

/-!
Values that are written otherwise.  A record tolerates null in place of some members and takes some
under another key; which ones is a table, one row for each member with such a freedom.  A value with
one member left out or renamed, however deep, is checked as before, so it is after any number of
such changes.
-/

namespace ClientScribe

open View (shape)

/-! ### Checks with the same answer -/

namespace Checked

variable {α β : Type}

/-- Both succeed, with one value, or neither does.  The issues may differ. -/
def Agree (c c' : Checked α) : Prop := ∀ a, c = .ok a ↔ c' = .ok a

theorem Agree.refl (c : Checked α) : Agree c c := fun _ => Iff.rfl

theorem Agree.map {c c' : Checked α} (h : Agree c c') (f : α → β) :
    Agree (c.map f) (c'.map f) := by
  intro b
  simp only [map_eq_ok_iff, h _]

theorem Agree.ap {f f' : Checked (α → β)} {c c' : Checked α} (hf : Agree f f') (hc : Agree c c') :
    Agree (ap f c) (ap f' c') := by
  intro b
  simp only [ap_eq_ok_iff, hf _, hc _]

theorem Agree.under {c c' : Checked α} (h : Agree c c') (step step' : Issue.Step) :
    Agree (c.under step) (c'.under step') := by
  intro a
  simp only [under_eq_ok_iff, h a]

end Checked

open Checked (Agree)

/-! ### What may be written otherwise -/

/-- What a value is taken for. -/
inductive Form where
  | page
  | endpoint
  | param
  | type
  | field
  | reference
  | list (item : Form)
deriving DecidableEq

/-- A member that may be written in several ways: under any of its spellings, perhaps as null
instead of not at all, and with what it holds written otherwise. -/
structure Rule where
  spellings : List String
  nullable : Bool
  part : Option Form
deriving DecidableEq

/-- The members of a record that may be written in several ways. -/
def Form.rules : Form → List Rule
  | .page =>
    [⟨["body"], true, none⟩, ⟨["excerpt"], true, none⟩, ⟨["api"], true, some .endpoint⟩,
      ⟨["children"], true, some (.list .page)⟩]
  | .endpoint => [⟨["params"], true, some (.list .param)⟩]
  | .param =>
    [⟨["type"], true, none⟩, ⟨["in", "location"], false, none⟩, ⟨["required"], true, none⟩,
      ⟨["desc"], true, none⟩]
  | .type =>
    [⟨["startsWith", "starts_with"], true, none⟩,
      ⟨["possibleValues", "possible_values"], true, none⟩, ⟨["fields"], true, some (.list .field)⟩,
      ⟨["id"], true, none⟩, ⟨["arrayTypes", "array_types"], true, some (.list .type)⟩]
  | .field => [⟨["type", "types"], false, some (.list .type)⟩]
  | .reference =>
    [⟨["parent"], true, none⟩, ⟨["fields"], false, some (.list .field)⟩,
      ⟨["params"], false, some (.list .field)⟩, ⟨["body"], false, some (.list .field)⟩,
      ⟨["query"], false, some (.list .field)⟩, ⟨["headers"], false, some (.list .field)⟩]
  | .list _ => []

mutual

/-- One change of a value: of one member of an object, or of one item of a list. -/
inductive Rewrites : Form → Json → Json → Prop
  | members {form : Form} {ms ms' : Json.Members} (h : Edits form ms ms') :
    Rewrites form (.obj ms) (.obj ms')
  | item {form : Form} {v w : Json} {before after : List Json} (h : Rewrites form v w) :
    Rewrites (.list form) (.arr (before ++ v :: after)) (.arr (before ++ w :: after))

/-- One change of one member.  It is dropped or renamed only if it has no second spelling beside
it. -/
inductive Edits : Form → Json.Members → Json.Members → Prop
  | drop {form : Form} {r : Rule} {k : String} {before after : Json.Members}
    (hr : r ∈ form.rules) (hnull : r.nullable = true) (hk : k ∈ r.spellings)
    (honly : ∀ m ∈ before ++ after, m.1 ∉ r.spellings) :
    Edits form (before ++ (k, .null) :: after) (before ++ after)
  | rename {form : Form} {r : Rule} {k k' : String} {v : Json} {before after : Json.Members}
    (hr : r ∈ form.rules) (hk : k ∈ r.spellings) (hk' : k' ∈ r.spellings)
    (honly : ∀ m ∈ before ++ after, m.1 ∉ r.spellings) :
    Edits form (before ++ (k, v) :: after) (before ++ (k', v) :: after)
  | part {form inner : Form} {r : Rule} {k : String} {v w : Json} {before after : Json.Members}
    (hr : r ∈ form.rules) (hk : k ∈ r.spellings) (hpart : r.part = some inner)
    (h : Rewrites inner v w) :
    Edits form (before ++ (k, v) :: after) (before ++ (k, w) :: after)

end

/-- No key belongs to two rules of a record. -/
theorem Form.rule_unique {form : Form} {r r' : Rule} (hr : r ∈ form.rules) (hr' : r' ∈ form.rules)
    {k : String} (hk : k ∈ r.spellings) (hk' : k ∈ r'.spellings) : r = r' := by
  have hall : ∀ r ∈ form.rules, ∀ r' ∈ form.rules,
      (∃ k ∈ r.spellings, k ∈ r'.spellings) → r = r' := by
    cases form with
    | list inner => exact fun r hr => absurd hr List.not_mem_nil
    | _ => decide
  exact hall r hr r' hr' ⟨k, hk, hk'⟩

/-! ### Looking up members -/

namespace Decode

section

variable {β : Type} {members members' before after : List (String × β)} {k j : String} {v w : β}
  {spellings : List String}

theorem lookup_append_cons_of_ne (h : j ≠ k) :
    (before ++ (k, v) :: after).lookup j = (before ++ after).lookup j := by
  rw [List.lookup_append, List.lookup_append, List.lookup_cons, beq_eq_false_iff_ne.2 h]

theorem lookup_eq_none_of_forall (h : ∀ m ∈ members, m.1 ≠ k) : members.lookup k = none := by
  rw [List.lookup_eq_none_iff]
  intro m hm
  exact bne_iff_ne.2 (h m hm).symm

theorem pick_congr (h : ∀ k ∈ spellings, members.lookup k = members'.lookup k) :
    pick spellings members = pick spellings members' := by
  induction spellings with
  | nil => rfl
  | cons k spellings ih =>
    simp only [pick, List.findSome?_cons] at ih ⊢
    rw [h k List.mem_cons_self, ih fun j hj => h j (List.mem_cons_of_mem k hj)]

theorem pick_of_absent (h : ∀ m ∈ members, m.1 ∉ spellings) : pick spellings members = none := by
  rw [pick, List.findSome?_eq_none_iff]
  intro k hk
  rw [lookup_eq_none_of_forall fun m hm heq => h m hm (heq ▸ hk), Option.map_none]

/-- A member without a second spelling beside it is the one that counts. -/
theorem pick_of_only (hk : k ∈ spellings) (honly : ∀ m ∈ before ++ after, m.1 ∉ spellings) :
    pick spellings (before ++ (k, v) :: after) = some (k, v) := by
  have habsent {j : String} (hj : j ∈ spellings) : (before ++ after).lookup j = none :=
    lookup_eq_none_of_forall fun m hm heq => honly m hm (heq ▸ hj)
  have hlookup : (before ++ (k, v) :: after).lookup k = some v := by
    have hbefore := habsent hk
    rw [List.lookup_append, Option.or_eq_none_iff] at hbefore
    rw [List.lookup_append, hbefore.1, List.lookup_cons_self, Option.none_or]
  cases hpick : pick spellings (before ++ (k, v) :: after) with
  | none =>
    rw [pick, List.findSome?_eq_none_iff] at hpick
    have hnone := hpick k hk
    rw [hlookup] at hnone
    exact absurd hnone (by simp)
  | some m =>
    obtain ⟨j, hj, hfound⟩ := List.exists_of_findSome?_eq_some hpick
    by_cases heq : j = k
    · subst heq
      rw [hlookup] at hfound
      exact hfound.symm
    · rw [lookup_append_cons_of_ne heq, habsent hj] at hfound
      exact absurd hfound (by simp)

/-- With another value in a member, the same member counts. -/
theorem pick_replaced : pick spellings (before ++ (k, v) :: after) =
      pick spellings (before ++ (k, w) :: after)
    ∨ pick spellings (before ++ (k, v) :: after) = some (k, v)
      ∧ pick spellings (before ++ (k, w) :: after) = some (k, w) := by
  induction spellings with
  | nil => exact .inl rfl
  | cons j spellings ih =>
    simp only [pick, List.findSome?_cons] at ih ⊢
    by_cases hj : j = k
    · subst hj
      simp only [List.lookup_append, List.lookup_cons_self]
      cases before.lookup j with
      | none => exact .inr ⟨rfl, rfl⟩
      | some u => exact .inl rfl
    · rw [lookup_append_cons_of_ne hj, lookup_append_cons_of_ne hj]
      cases (before ++ after).lookup j with
      | none => exact ih
      | some u => exact .inl rfl

end

end Decode

/-! ### What a change leaves to be seen -/

section

variable {form : Form} {ms ms' : Json.Members}

open Decode (pick)

/-- Keys that no rule mentions are looked up as before. -/
theorem Edits.lookup_eq (h : Edits form ms ms') {j : String}
    (hj : ∀ r ∈ form.rules, j ∉ r.spellings) : ms.lookup j = ms'.lookup j := by
  have hne {r : Rule} (hr : r ∈ form.rules) {k : String} (hk : k ∈ r.spellings) : j ≠ k :=
    fun heq => hj r hr (heq ▸ hk)
  cases h with
  | drop hr _ hk _ => exact Decode.lookup_append_cons_of_ne (hne hr hk)
  | rename hr hk hk' _ =>
    rw [Decode.lookup_append_cons_of_ne (hne hr hk), Decode.lookup_append_cons_of_ne (hne hr hk')]
  | part hr hk _ _ =>
    rw [Decode.lookup_append_cons_of_ne (hne hr hk), Decode.lookup_append_cons_of_ne (hne hr hk)]

/-- What a change does to the member that counts under the spellings of a rule. -/
inductive PickEdited (r : Rule) : Option (String × Json) → Option (String × Json) → Prop
  | same (m : Option (String × Json)) : PickEdited r m m
  | dropped (hnull : r.nullable = true) (k : String) : PickEdited r (some (k, .null)) none
  | renamed (k k' : String) (v : Json) : PickEdited r (some (k, v)) (some (k', v))
  | inside {inner : Form} (hpart : r.part = some inner) (k : String) {v w : Json}
    (h : Rewrites inner v w) : PickEdited r (some (k, v)) (some (k, w))

theorem Edits.pickEdited (h : Edits form ms ms') {r : Rule} (hr : r ∈ form.rules) :
    PickEdited r (pick r.spellings ms) (pick r.spellings ms') := by
  -- a change by another rule is of a key that is not looked for
  have hne {r' : Rule} (hr' : r' ∈ form.rules) {k : String} (hk : k ∈ r'.spellings)
      (hrule : r' ≠ r) {j : String} (hj : j ∈ r.spellings) : j ≠ k := by
    rintro rfl
    exact hrule (Form.rule_unique hr' hr hk hj)
  cases h with
  | @drop _ r' k before after hr' hnull hk honly =>
    by_cases hrule : r' = r
    · subst hrule
      rw [Decode.pick_of_only hk honly, Decode.pick_of_absent honly]
      exact .dropped hnull k
    · have hpick : pick r.spellings (before ++ (k, .null) :: after) =
          pick r.spellings (before ++ after) :=
        Decode.pick_congr fun j hj => Decode.lookup_append_cons_of_ne (hne hr' hk hrule hj)
      rw [hpick]
      exact .same _
  | @rename _ r' k k' v before after hr' hk hk' honly =>
    by_cases hrule : r' = r
    · subst hrule
      rw [Decode.pick_of_only hk honly, Decode.pick_of_only hk' honly]
      exact .renamed k k' v
    · have hpick : pick r.spellings (before ++ (k, v) :: after) =
          pick r.spellings (before ++ (k', v) :: after) := by
        apply Decode.pick_congr
        intro j hj
        rw [Decode.lookup_append_cons_of_ne (hne hr' hk hrule hj),
          Decode.lookup_append_cons_of_ne (hne hr' hk' hrule hj)]
      rw [hpick]
      exact .same _
  | @part _ inner r' k v w before after hr' hk hpart h =>
    by_cases hrule : r' = r
    · subst hrule
      rcases @Decode.pick_replaced _ before after k v w r'.spellings with hpick | ⟨hpick, hpick'⟩
      · rw [hpick]
        exact .same _
      · rw [hpick, hpick']
        exact .inside hpart k h
    · have hpick : pick r.spellings (before ++ (k, v) :: after) =
          pick r.spellings (before ++ (k, w) :: after) := by
        apply Decode.pick_congr
        intro j hj
        rw [Decode.lookup_append_cons_of_ne (hne hr' hk hrule hj),
          Decode.lookup_append_cons_of_ne (hne hr' hk hrule hj)]
      rw [hpick]
      exact .same _

theorem Rewrites.exists_obj_or_arr {v w : Json} (h : Rewrites form v w) :
    (∃ ms ms', v = .obj ms ∧ w = .obj ms') ∨ ∃ vs ws, v = .arr vs ∧ w = .arr ws := by
  cases h with
  | members => exact .inl ⟨_, _, rfl, rfl⟩
  | item => exact .inr ⟨_, _, rfl, rfl⟩

end

/-! ### Checks that see no change -/

namespace Decode

variable {α β : Type} {view : Json → β}

/-- The check answers as before when its value is changed. -/
def Overlooks (view : Json → β) (form : Form) (check : β → Checked α) : Prop :=
  ∀ v w, Rewrites form v w → Agree (check (view v)) (check (view w))

/-- A way to show JSON values to checks, null included. -/
structure Displays [View β] (view : Json → β) : Prop extends Json.Shown view where
  null : shape (view .null) = .null

theorem displays_self : Displays (id : Json → Json) := by
  refine ⟨⟨fun _ => rfl, fun _ => rfl, fun _ => ?_, fun _ => ?_, fun _ => rfl⟩, rfl⟩
  · rw [List.map_id]
    rfl
  · simp [shape, mapValues]

theorem displays_written : Displays Json.Written.mk := ⟨Json.Written.shown, rfl⟩

section

variable {form : Form} {ms ms' : Json.Members} {check : β → Checked α} {default : α}

/-- A member that no rule is about. -/
theorem required_of_free (h : Edits form ms ms') {k : String} {others : List String}
    (hfree : ∀ r ∈ form.rules, ∀ j ∈ k :: others, j ∉ r.spellings) :
    Agree (required (k :: others) check (mapValues view ms))
      (required (k :: others) check (mapValues view ms')) := by
  have hpick : pick (k :: others) ms = pick (k :: others) ms' :=
    pick_congr fun j hj => h.lookup_eq fun r hr => hfree r hr j hj
  rw [required, required, pick_hom, pick_hom, hpick]
  exact .refl _

theorem optional_of_free (h : Edits form ms ms') {k : String} {others : List String}
    (hfree : ∀ r ∈ form.rules, ∀ j ∈ k :: others, j ∉ r.spellings) :
    Agree (optional (k :: others) default check (mapValues view ms))
      (optional (k :: others) default check (mapValues view ms')) := by
  have hpick : pick (k :: others) ms = pick (k :: others) ms' :=
    pick_congr fun j hj => h.lookup_eq fun r hr => hfree r hr j hj
  rw [optional, optional, pick_hom, pick_hom, hpick]
  exact .refl _

/-- A member that has to be present: its rule does not let it be left out. -/
theorem required_of_rule (r : Rule) (h : Edits form ms ms') (hr : r ∈ form.rules)
    (hnull : r.nullable = false)
    (hpart : ∀ inner, r.part = some inner → Overlooks view inner check) :
    Agree (required r.spellings check (mapValues view ms))
      (required r.spellings check (mapValues view ms')) := by
  have hpick := h.pickEdited hr
  rw [required, required, pick_hom, pick_hom]
  generalize pick r.spellings ms = m, pick r.spellings ms' = m' at hpick ⊢
  cases hpick with
  | same m => exact .refl _
  | dropped hnull' => exact absurd (hnull.symm.trans hnull') (by decide)
  | renamed k k' v => exact (Agree.refl _).under _ _
  | inside hinner k h => exact (hpart _ hinner _ _ h).under _ _

/-- A member that may be absent, and null instead if its rule says so. -/
theorem optional_of_rule (r : Rule) (h : Edits form ms ms') (hr : r ∈ form.rules)
    (hnull : r.nullable = true → check (view .null) = .ok default)
    (hpart : ∀ inner, r.part = some inner → Overlooks view inner check) :
    Agree (optional r.spellings default check (mapValues view ms))
      (optional r.spellings default check (mapValues view ms')) := by
  have hpick := h.pickEdited hr
  rw [optional, optional, pick_hom, pick_hom]
  generalize pick r.spellings ms = m, pick r.spellings ms' = m' at hpick ⊢
  cases hpick with
  | same m => exact .refl _
  | dropped hnullable k =>
    simp only [Option.map_some, Option.map_none, hnull hnullable]
    exact .refl _
  | renamed k k' v => exact (Agree.refl _).under _ _
  | inside hinner k h => exact (hpart _ hinner _ _ h).under _ _

theorem itemsFrom_of_rewrites (h : Overlooks view form check) {v w : Json}
    (hvw : Rewrites form v w) (before after : List Json) (i : Nat) :
    Agree (itemsFrom check i ((before ++ v :: after).map view))
      (itemsFrom check i ((before ++ w :: after).map view)) := by
  induction before generalizing i with
  | nil => exact (((h v w hvw).under _ _).map _).ap (.refl _)
  | cons u before ih => exact (((Agree.refl (check (view u))).under _ _).map _).ap (ih (i + 1))

end

section

variable [View β] (hview : Displays view) {form : Form} {check : β → Checked α}

include hview

theorem isNull_null : isNull (view .null) = true := by
  rw [isNull, hview.null]

theorem isNull_of_rewrites {v w : Json} (h : Rewrites form v w) :
    isNull (view v) = false ∧ isNull (view w) = false := by
  rcases h.exists_obj_or_arr with ⟨ms, ms', rfl, rfl⟩ | ⟨vs, ws, rfl, rfl⟩
  · rw [isNull, isNull, hview.obj, hview.obj]
    exact ⟨rfl, rfl⟩
  · rw [isNull, isNull, hview.arr, hview.arr]
    exact ⟨rfl, rfl⟩

theorem nullable_null : nullable check (view .null) = .ok none := by
  rw [nullable, isNull_null hview, if_pos rfl]

theorem nullAs_null (default : α) : nullAs default check (view .null) = .ok default := by
  rw [nullAs, isNull_null hview, if_pos rfl]

theorem overlooks_nullable (h : Overlooks view form check) :
    Overlooks view form (nullable check) := by
  intro v w hvw
  obtain ⟨hv, hw⟩ := isNull_of_rewrites hview hvw
  rw [nullable, nullable, hv, hw]
  exact (h v w hvw).map some

theorem overlooks_nullAs (default : α) (h : Overlooks view form check) :
    Overlooks view form (nullAs default check) := by
  intro v w hvw
  obtain ⟨hv, hw⟩ := isNull_of_rewrites hview hvw
  rw [nullAs, nullAs, hv, hw]
  exact h v w hvw

theorem overlooks_list (h : Overlooks view form check) :
    Overlooks view (.list form) (list check) := by
  intro v w hvw
  cases hvw with
  | members hedits =>
    -- a list has no members to change
    cases hedits with
    | drop hr => exact absurd hr List.not_mem_nil
    | rename hr => exact absurd hr List.not_mem_nil
    | part hr => exact absurd hr List.not_mem_nil
  | item hvw =>
    rw [list, list, hview.arr, hview.arr]
    exact itemsFrom_of_rewrites h hvw _ _ 0

/-- A record is checked by its members. -/
theorem record_obj (check : List (String × β) → Checked α) (ms : Json.Members) :
    record check (view (.obj ms)) = check (mapValues view ms) := by
  rw [record, hview.obj]

end

end Decode

end ClientScribe
