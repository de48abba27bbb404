import ClientScribe.Json.Reader

/-!
How deep a JSON value is and what strings it holds.  A reader follows arrays and objects up to a
depth; one that holds nothing does not count, since a strict reader takes it at the last level too.
-/

namespace ClientScribe.Json

variable {P Q : String → Prop}

/-- No more than `depth` arrays and objects with something in them are inside each other, and every
string among the values has the property. -/
def Within (P : String → Prop) : (depth : Nat) → Json → Prop
  | _, .str s => P s
  | 0, .arr vs => vs = []
  | depth + 1, .arr vs => ∀ v ∈ vs, Within P depth v
  | 0, .obj ms => ms = []
  | depth + 1, .obj ms => ∀ m ∈ ms, Within P depth m.2
  | _, _ => True

/-- A string is among the values of another value; keys do not count. -/
inductive HasText (s : String) : Json → Prop
  | here : HasText s (.str s)
  | item {vs : List Json} {v : Json} (hmem : v ∈ vs) (h : HasText s v) : HasText s (.arr vs)
  | member {ms : Members} {m : String × Json} (hmem : m ∈ ms) (h : HasText s m.2) :
    HasText s (.obj ms)

instance Within.decidable [DecidablePred P] :
    (depth : Nat) → (v : Json) → Decidable (v.Within P depth)
  | 0, .str s | _ + 1, .str s => inferInstanceAs (Decidable (P s))
  | 0, .arr vs => decidable_of_iff (vs.isEmpty = true) List.isEmpty_iff
  | depth + 1, .arr vs =>
    have (v : Json) : Decidable (v.Within P depth) := Within.decidable depth v
    inferInstanceAs (Decidable (∀ v ∈ vs, v.Within P depth))
  | 0, .obj ms => decidable_of_iff (ms.isEmpty = true) List.isEmpty_iff
  | depth + 1, .obj ms =>
    have (v : Json) : Decidable (v.Within P depth) := Within.decidable depth v
    inferInstanceAs (Decidable (∀ m ∈ ms, m.2.Within P depth))
  | 0, .null | _ + 1, .null | 0, .bool _ | _ + 1, .bool _ | 0, .int _ | _ + 1, .int _
  | 0, .float _ | _ + 1, .float _ => .isTrue trivial

@[simp] theorem within_str {depth : Nat} {s : String} : (str s).Within P depth ↔ P s := by
  cases depth <;> rfl

@[simp] theorem within_bool {depth : Nat} {b : Bool} : (bool b).Within P depth := by
  cases depth <;> trivial

@[simp] theorem within_arr_nil {depth : Nat} : (arr []).Within P depth := by
  cases depth <;> simp [Within]

/-- An array is one level deeper than its items. -/
theorem within_arr_iff {depth : Nat} {vs : List Json} :
    (arr vs).Within P depth ↔ vs = [] ∨ ∃ d, depth = d + 1 ∧ ∀ v ∈ vs, v.Within P d := by
  cases depth with
  | zero => simp [Within]
  | succ d =>
    simp only [Within, Nat.succ.injEq, exists_eq_left', iff_or_self]
    rintro rfl
    simp

/-- An object is one level deeper than its members. -/
theorem within_obj_iff {depth : Nat} {ms : Members} :
    (obj ms).Within P depth ↔ ms = [] ∨ ∃ d, depth = d + 1 ∧ ∀ m ∈ ms, m.2.Within P d := by
  cases depth with
  | zero => simp [Within]
  | succ d =>
    simp only [Within, Nat.succ.injEq, exists_eq_left', iff_or_self]
    rintro rfl
    simp

theorem Within.hasText {v : Json} {depth : Nat} {s : String} (h : v.Within P depth)
    (hs : v.HasText s) : P s := by
  induction hs generalizing depth with
  | here => exact within_str.1 h
  | item hmem _ ih =>
    rcases within_arr_iff.1 h with rfl | ⟨d, rfl, hall⟩
    · cases hmem
    · exact ih (hall _ hmem)
  | member hmem _ ih =>
    rcases within_obj_iff.1 h with rfl | ⟨d, rfl, hall⟩
    · cases hmem
    · exact ih (hall _ hmem)

theorem Within.imp {v : Json} {depth : Nat} (h : v.Within P depth)
    (himp : ∀ s, v.HasText s → P s → Q s) : v.Within Q depth := by
  induction depth generalizing v with
  | zero =>
    cases v with
    | str s => exact himp s .here h
    | arr vs => exact h
    | obj ms => exact h
    | _ => trivial
  | succ d ih =>
    cases v with
    | str s => exact himp s .here h
    | arr vs =>
      intro v hv
      apply ih (h v hv)
      intro s hs
      exact himp s (.item hv hs)
    | obj ms =>
      intro m hm
      apply ih (h m hm)
      intro s hs
      exact himp s (.member hm hs)
    | _ => trivial

theorem Within.mono {v : Json} {depth depth' : Nat} (h : v.Within P depth) (hle : depth ≤ depth') :
    v.Within P depth' := by
  induction depth generalizing v depth' with
  | zero =>
    cases v with
    | str s => exact within_str.2 (within_str.1 h)
    | arr vs => exact within_arr_iff.2 (.inl h)
    | obj ms => exact within_obj_iff.2 (.inl h)
    | _ => cases depth' <;> trivial
  | succ d ih =>
    obtain ⟨d', rfl⟩ : ∃ d', depth' = d' + 1 := Nat.exists_eq_add_of_le' (by omega)
    cases v with
    | str s => exact within_str.2 (within_str.1 h)
    | arr vs =>
      intro v hv
      exact ih (h v hv) (Nat.le_of_succ_le_succ hle)
    | obj ms =>
      intro m hm
      exact ih (h m hm) (Nat.le_of_succ_le_succ hle)
    | _ => trivial

/-- An item is no deeper than its array. -/
theorem Within.item {vs : List Json} {depth : Nat} (h : (arr vs).Within P depth) :
    ∀ v ∈ vs, v.Within P depth := by
  intro v hv
  rcases within_arr_iff.1 h with rfl | ⟨d, rfl, hall⟩
  · exact absurd hv List.not_mem_nil
  · exact (hall v hv).mono (Nat.le_succ d)

/-- Depth and strings are separate matters. -/
theorem within_iff {v : Json} {depth : Nat} :
    v.Within P depth ↔ v.Within (fun _ => True) depth ∧ ∀ s, v.HasText s → P s := by
  constructor
  · intro h
    exact ⟨h.imp fun _ _ _ => trivial, fun s hs => h.hasText hs⟩
  · rintro ⟨hdepth, hall⟩
    exact hdepth.imp fun s hs _ => hall s hs

theorem exists_bound_of_forall_mem {α : Type} {R : α → String → Prop} {as : List α}
    (h : ∀ a ∈ as, ∃ bound, ∀ s, R a s → s.length < bound) :
    ∃ bound, ∀ a ∈ as, ∀ s, R a s → s.length < bound := by
  induction as with
  | nil => exact ⟨0, fun a ha => absurd ha List.not_mem_nil⟩
  | cons a as ih =>
    obtain ⟨n, hn⟩ := h a List.mem_cons_self
    obtain ⟨m, hm⟩ := ih fun b hb => h b (List.mem_cons_of_mem a hb)
    refine ⟨max n m, ?_⟩
    intro b hb s hs
    rcases List.mem_cons.1 hb with rfl | hb
    · exact Nat.lt_of_lt_of_le (hn s hs) (Nat.le_max_left n m)
    · exact Nat.lt_of_lt_of_le (hm b hb s hs) (Nat.le_max_right n m)

/-- The strings of a value are not longer and longer. -/
theorem Within.exists_bound {v : Json} {depth : Nat} (h : v.Within P depth) :
    ∃ bound, ∀ s, v.HasText s → s.length < bound := by
  induction depth generalizing v with
  | zero =>
    cases v with
    | str s => exact ⟨s.length + 1, fun t ht => by cases ht; exact Nat.lt_succ_self s.length⟩
    | arr vs =>
      obtain rfl : vs = [] := h
      exact ⟨0, fun t ht => by cases ht with | item hmem _ => exact absurd hmem List.not_mem_nil⟩
    | obj ms =>
      obtain rfl : ms = [] := h
      exact ⟨0, fun t ht => by cases ht with | member hmem _ => exact absurd hmem List.not_mem_nil⟩
    | _ => exact ⟨0, fun t ht => nomatch ht⟩
  | succ d ih =>
    cases v with
    | str s => exact ⟨s.length + 1, fun t ht => by cases ht; exact Nat.lt_succ_self s.length⟩
    | arr vs =>
      obtain ⟨bound, hbound⟩ := exists_bound_of_forall_mem fun v hv => ih (h v hv)
      exact ⟨bound, fun t ht => by cases ht with | item hmem ht => exact hbound _ hmem t ht⟩
    | obj ms =>
      obtain ⟨bound, hbound⟩ := exists_bound_of_forall_mem
        (R := fun m : String × Json => m.2.HasText) fun m hm => ih (h m hm)
      exact ⟨bound, fun t ht => by cases ht with | member hmem ht => exact hbound _ hmem t ht⟩
    | _ => exact ⟨0, fun t ht => nomatch ht⟩

/-! ### What is read is not too deep -/

theorem map_eq_ok_iff {ε α β : Type} {f : α → β} {x : Except ε α} {b : β} :
    x.map f = .ok b ↔ ∃ a, x = .ok a ∧ f a = b := by
  cases x <;> simp [Except.map]

/-- Whether a value is no array and no object. -/
def IsScalar : Json → Prop
  | .arr _ | .obj _ => False
  | _ => True

theorem IsScalar.within {v : Json} (h : v.IsScalar) (depth : Nat) :
    v.Within (fun _ => True) depth := by
  cases v with
  | arr vs => exact h.elim
  | obj ms => exact h.elim
  | _ => cases depth <;> trivial

theorem isScalar_numberBehind (negative : Bool) (ds s : List Char) :
    (numberBehind negative ds s).1.IsScalar := by
  simp only [numberBehind]
  split
  · trivial
  · split <;> trivial

theorem isScalar_of_unsigned? {strict negative : Bool} {s rest : List Char} {v : Json}
    (h : unsigned? strict negative s = some (.ok (v, rest))) : v.IsScalar := by
  obtain ⟨⟨ds, s'⟩, -, h⟩ := Option.map_eq_some_iff.1 h
  have hscalar := isScalar_numberBehind negative ds s'
  dsimp only at h
  split at h
  · simp [fail] at h
  · split at h
    · simp at h
    · simp only [Except.ok.injEq, Prod.mk.injEq] at h
      exact h.1 ▸ hscalar

theorem isScalar_of_name? {s rest : List Char} {v : Json} (h : name? s = some (v, rest)) :
    v.IsScalar := by
  unfold name? at h
  split at h <;> simp_all <;> (rw [← h.1]; trivial)

theorem isScalar_of_scalar {strict : Bool} {s rest : List Char} {v : Json}
    (h : scalar strict s = .ok (v, rest)) : v.IsScalar := by
  unfold scalar at h
  split at h
  · rename_i t
    cases ht : string strict t with
    | error fault => simp [ht, Except.map] at h
    | ok r =>
      simp only [ht, Except.map, Except.ok.injEq, Prod.mk.injEq] at h
      rw [← h.1]
      trivial
  · split at h
    · rename_i hname
      simp only [Except.ok.injEq] at h
      subst h
      exact isScalar_of_name? hname
    · rename_i r _ hnumber
      subst h
      unfold number? at hnumber
      split at hnumber <;> exact isScalar_of_unsigned? hnumber
    · simp [fail] at h

/-- Every item was there before or was read. -/
theorem mem_items {item : List Char → Step Json} {rounds : Nat} {done vs : List Json}
    {s rest : List Char} (h : items item rounds done s = .ok (vs, rest)) :
    ∀ v ∈ vs, v ∈ done ∨ ∃ t rest, item t = .ok (v, rest) := by
  induction rounds generalizing done s with
  | zero => simp [items, fail] at h
  | succ rounds ih =>
    rw [items] at h
    cases hitem : item s with
    | error fault => simp [hitem] at h
    | ok r =>
      obtain ⟨w, s'⟩ := r
      simp only [hitem] at h
      split at h
      · simp only [Except.ok.injEq, Prod.mk.injEq] at h
        intro v hv
        rw [← h.1, List.mem_reverse, List.mem_cons] at hv
        rcases hv with rfl | hv
        · exact .inr ⟨s, s', hitem⟩
        · exact .inl hv
      · intro v hv
        rcases ih h v hv with hdone | hread
        · rcases List.mem_cons.1 hdone with rfl | hdone
          · exact .inr ⟨s, s', hitem⟩
          · exact .inl hdone
        · exact .inr hread
      · simp [fail] at h

theorem mem_put {α : Type} {key : String} {value : α} {members : List (String × α)}
    {m : String × α} (h : m ∈ put key value members) : m = (key, value) ∨ m ∈ members := by
  induction members with
  | nil => exact .inl (by simpa [put] using h)
  | cons m' rest ih =>
    obtain ⟨k, v⟩ := m'
    rw [put] at h
    split at h
    · rcases List.mem_cons.1 h with rfl | h
      · exact .inl rfl
      · exact .inr (List.mem_cons_of_mem _ h)
    · rcases List.mem_cons.1 h with rfl | h
      · exact .inr List.mem_cons_self
      · exact (ih h).imp_right (List.mem_cons_of_mem _)

/-- Every member was there before or its value was read. -/
theorem mem_members {strict : Bool} {item : List Char → Step Json} {rounds : Nat}
    {done ms : Members} {s rest : List Char}
    (h : members strict item rounds done s = .ok (ms, rest)) :
    ∀ m ∈ ms, m ∈ done ∨ ∃ t rest, item t = .ok (m.2, rest) := by
  induction rounds generalizing done s with
  | zero => simp [members, fail] at h
  | succ rounds ih =>
    rw [members] at h
    cases hkey : key strict s with
    | error fault => simp [hkey] at h
    | ok r =>
      obtain ⟨k, s'⟩ := r
      simp only [hkey] at h
      cases hitem : item s' with
      | error fault => simp [hitem] at h
      | ok r =>
        obtain ⟨w, s''⟩ := r
        have hput : ∀ m ∈ put k w done, m ∈ done ∨ ∃ t rest, item t = .ok (m.2, rest) := by
          intro m hm
          rcases mem_put hm with rfl | hm
          · exact .inr ⟨s', s'', hitem⟩
          · exact .inl hm
        simp only [hitem] at h
        split at h
        · simp only [Except.ok.injEq, Prod.mk.injEq] at h
          exact h.1 ▸ hput
        · intro m hm
          rcases ih h m hm with hdone | hread
          · exact hput m hdone
          · exact .inr hread
        · simp [fail] at h

theorem within_of_innermost {strict : Bool} {s rest : List Char} {v : Json}
    (h : innermost strict s = .ok (v, rest)) : v.Within (fun _ => True) 0 := by
  unfold innermost at h
  split at h
  · split at h
    · simp only [Except.ok.injEq, Prod.mk.injEq] at h
      exact h.1 ▸ rfl
    · simp at h
  · split at h
    · simp only [Except.ok.injEq, Prod.mk.injEq] at h
      exact h.1 ▸ rfl
    · simp at h
  · exact (isScalar_of_scalar h).within 0

/-- A value that was read is no deeper than its reader follows. -/
theorem within_of_value {strict : Bool} {depth : Nat} {s rest : List Char} {v : Json}
    (h : value strict depth s = .ok (v, rest)) : v.Within (fun _ => True) depth := by
  induction depth generalizing s rest v with
  | zero => exact within_of_innermost h
  | succ depth ih =>
    by_cases harr : ∃ t, s = '[' :: t
    · obtain ⟨t, rfl⟩ := harr
      rw [value] at h
      split at h
      · simp only [Except.ok.injEq, Prod.mk.injEq] at h
        exact h.1 ▸ within_arr_nil
      · obtain ⟨⟨vs, t'⟩, hitems, hv⟩ := map_eq_ok_iff.1 h
        simp only [Prod.mk.injEq] at hv
        rw [← hv.1]
        intro w hw
        rcases mem_items hitems w hw with hdone | ⟨u, u', hread⟩
        · exact absurd hdone List.not_mem_nil
        · exact ih hread
    · by_cases hobj : ∃ t, s = '{' :: t
      · obtain ⟨t, rfl⟩ := hobj
        rw [value] at h
        split at h
        · simp only [Except.ok.injEq, Prod.mk.injEq] at h
          exact h.1 ▸ within_obj_iff.2 (.inl rfl)
        · obtain ⟨⟨ms, t'⟩, hmembers, hv⟩ := map_eq_ok_iff.1 h
          simp only [Prod.mk.injEq] at hv
          rw [← hv.1]
          intro m hm
          rcases mem_members hmembers m hm with hdone | ⟨u, u', hread⟩
          · exact absurd hdone List.not_mem_nil
          · exact ih hread
      · rw [value.eq_4 strict s depth (fun t ht => harr ⟨t, ht⟩) (fun t ht => hobj ⟨t, ht⟩)] at h
        exact (isScalar_of_scalar h).within _

theorem within_of_readWith {strict : Bool} {depth : Nat} {text : List Char} {v : Json}
    (h : readWith strict depth text = .ok v) : v.Within (fun _ => True) depth := by
  rw [readWith] at h
  split at h
  · simp at h
  · cases hvalue : value strict depth (skipGap text) with
    | error fault => simp [hvalue] at h
    | ok r =>
      simp only [hvalue] at h
      split at h
      · exact Except.ok.inj h ▸ within_of_value hvalue
      · simp at h

end ClientScribe.Json
