import ClientScribe.Schema.Decode

/-!
What a check of a part says of the part: where it succeeds, the value comes from an item of the list
or from a member of the record, or it is a default.
-/

namespace ClientScribe

namespace Checked

universe u v

variable {α : Type u} {β : Type v}

theorem map_eq_ok_iff {f : α → β} {c : Checked α} {b : β} :
    c.map f = ok b ↔ ∃ a, c = ok a ∧ f a = b := by
  cases c <;> simp [map]

theorem cons_eq_ok_iff {c : Checked α} {cs : Checked (List α)} {as : List α} :
    cons c cs = ok as ↔ ∃ x xs, c = ok x ∧ cs = ok xs ∧ as = x :: xs := by
  simp only [cons, ap_eq_ok_iff, map_eq_ok_iff]
  constructor
  · rintro ⟨_, xs, ⟨x, hx, rfl⟩, hxs, rfl⟩
    exact ⟨x, xs, hx, hxs, rfl⟩
  · rintro ⟨x, xs, hx, hxs, rfl⟩
    exact ⟨List.cons x, xs, ⟨x, hx, rfl⟩, hxs, rfl⟩

/-! ### Checks that run side by side -/

def isOk : Checked α → Bool
  | .ok _ => true
  | .rejected _ => false

theorem isOk_iff {c : Checked α} : c.isOk = true ↔ ∃ a, c = .ok a := by
  cases c <;> simp [isOk]

@[simp] theorem isOk_map (f : α → β) (c : Checked α) : (c.map f).isOk = c.isOk := by
  cases c <;> rfl

@[simp] theorem isOk_ap (f : Checked (α → β)) (c : Checked α) :
    (ap f c).isOk = (f.isOk && c.isOk) := by
  cases f <;> cases c <;> rfl

@[simp] theorem isOk_under (step : Issue.Step) (c : Checked α) : (c.under step).isOk = c.isOk := by
  cases c <;> rfl

@[simp] theorem issues_map (f : α → β) (c : Checked α) : (c.map f).issues = c.issues := by
  cases c <;> rfl

@[simp] theorem issues_ap (f : Checked (α → β)) (c : Checked α) :
    (ap f c).issues = f.issues ++ c.issues := by
  cases f <;> cases c <;> simp [ap, issues]

/-- Seen from a step further out, the path to every issue starts with the step. -/
theorem issues_under (step : Issue.Step) (c : Checked α) :
    (c.under step).issues = c.issues.map fun i => { i with path := step :: i.path } := by
  cases c <;> rfl

end Checked

namespace Decode

open View (shape mark?)

variable {α β : Type}

/-! ### Lists -/

theorem itemsFrom_map {γ : Type} {check : β → Checked α} {encode : γ → β} {result : γ → α}
    {xs : List γ} (h : ∀ x ∈ xs, check (encode x) = .ok (result x)) (i : Nat) :
    itemsFrom check i (xs.map encode) = .ok (xs.map result) := by
  induction xs generalizing i with
  | nil => rfl
  | cons x xs ih =>
    have hxs := ih (fun y hy => h y (List.mem_cons_of_mem x hy)) (i + 1)
    rw [List.map_cons, itemsFrom, h x List.mem_cons_self, hxs]
    rfl

/-- A list of checked items is as long as the list, and each item comes from one that was
checked. -/
theorem of_itemsFrom_eq_ok {check : β → Checked α} {i : Nat} {vs : List β} {as : List α}
    (h : itemsFrom check i vs = .ok as) :
    as.length = vs.length ∧ ∀ a ∈ as, ∃ v ∈ vs, check v = .ok a := by
  induction vs generalizing i as with
  | nil =>
    rw [itemsFrom, Checked.ok.injEq] at h
    subst h
    exact ⟨rfl, fun a ha => absurd ha List.not_mem_nil⟩
  | cons v vs ih =>
    rw [itemsFrom, Checked.cons_eq_ok_iff] at h
    obtain ⟨x, xs, hx, hxs, rfl⟩ := h
    rw [Checked.under_eq_ok_iff] at hx
    obtain ⟨hlength, hall⟩ := ih hxs
    refine ⟨by rw [List.length_cons, List.length_cons, hlength], ?_⟩
    intro a ha
    rcases List.mem_cons.1 ha with rfl | ha
    · exact ⟨v, List.mem_cons_self, hx⟩
    · obtain ⟨w, hw, hcheck⟩ := hall a ha
      exact ⟨w, List.mem_cons_of_mem v hw, hcheck⟩

section

variable [View β]

theorem of_list_eq_ok {check : β → Checked α} {v : β} {as : List α} (h : list check v = .ok as) :
    ∃ vs, shape v = .list vs ∧ as.length = vs.length ∧ ∀ a ∈ as, ∃ w ∈ vs, check w = .ok a := by
  rw [list] at h
  split at h
  · exact ⟨_, ‹_›, of_itemsFrom_eq_ok h⟩
  · simp [Checked.refuse] at h

theorem nullable_eq_ok_iff {check : β → Checked α} {v : β} {o : Option α} :
    nullable check v = .ok o ↔
      (isNull v = true ∧ o = none) ∨ (isNull v = false ∧ ∃ a, check v = .ok a ∧ o = some a) := by
  rw [nullable]
  cases isNull v <;> simp [Checked.map_eq_ok_iff, eq_comm]

/-- A value that is inside nothing has no issue but those of its members. -/
theorem nested_of_mark?_eq_none {role : Role} {check : Around → List (String × β) → Checked α}
    {around : Around} {v : β} (h : mark? v = none) :
    nested role check around v = record (check around) v := by
  simp [nested, Around.holds, Around.enter, h]

theorem of_record_eq_ok {check : List (String × β) → Checked α} {v : β} {a : α}
    (h : record check v = .ok a) :
    ∃ members, shape v = .record members ∧ check members = .ok a := by
  rw [record] at h
  split at h
  · exact ⟨_, ‹_›, h⟩
  · simp [Checked.refuse] at h

/-- What is nested in others is a record, and checked by its members. -/
theorem of_nested_eq_ok {role : Role} {check : Around → List (String × β) → Checked α}
    {around : Around} {v : β} {a : α} (h : nested role check around v = .ok a) :
    ∃ members, shape v = .record members ∧ check (around.enter role v) members = .ok a := by
  rw [nested] at h
  split at h
  · exact absurd h (by simp [Checked.refuse])
  · exact of_record_eq_ok h

end

/-! ### Members -/

theorem mem_of_lookup_eq_some {k : String} {v : β} {members : List (String × β)}
    (h : members.lookup k = some v) : (k, v) ∈ members := by
  obtain ⟨before, behind, rfl, -⟩ := List.lookup_eq_some_iff.1 h
  exact List.mem_append_right before List.mem_cons_self

theorem mem_of_pick_eq_some {spellings : List String} {members : List (String × β)} {k : String}
    {v : β} (h : pick spellings members = some (k, v)) : (k, v) ∈ members := by
  obtain ⟨k', -, hk'⟩ := List.exists_of_findSome?_eq_some h
  obtain ⟨v', hv', heq⟩ := Option.map_eq_some_iff.1 hk'
  simp only [Prod.mk.injEq] at heq
  obtain ⟨rfl, rfl⟩ := heq
  exact mem_of_lookup_eq_some hv'

theorem of_required_eq_ok {spellings : List String} {check : β → Checked α}
    {members : List (String × β)} {a : α} (h : required spellings check members = .ok a) :
    ∃ m ∈ members, check m.2 = .ok a := by
  rw [required] at h
  split at h
  · rename_i k v hpick
    exact ⟨(k, v), mem_of_pick_eq_some hpick, Checked.under_eq_ok_iff.1 h⟩
  · simp [Checked.refuse, Checked.under] at h

theorem of_optional_eq_ok {spellings : List String} {default : α} {check : β → Checked α}
    {members : List (String × β)} {a : α} (h : optional spellings default check members = .ok a) :
    a = default ∨ ∃ m ∈ members, check m.2 = .ok a := by
  rw [optional] at h
  split at h
  · rename_i k v hpick
    exact .inr ⟨(k, v), mem_of_pick_eq_some hpick, Checked.under_eq_ok_iff.1 h⟩
  · exact .inl (Checked.ok.inj h).symm

/-- A member that may be absent or null comes from a member that is neither, if it has a value. -/
theorem exists_of_optional_nullable [View β] {spellings : List String} {check : β → Checked α}
    {members : List (String × β)} {o : Option α}
    (h : optional spellings none (nullable check) members = .ok o) {a : α} (ha : o = some a) :
    ∃ m ∈ members, check m.2 = .ok a := by
  rcases of_optional_eq_ok h with hnone | ⟨m, hm, hcheck⟩
  · rw [hnone] at ha
    exact absurd ha (by simp)
  · rcases nullable_eq_ok_iff.1 hcheck with ⟨-, hnone⟩ | ⟨-, b, hb, hsome⟩
    · rw [hnone] at ha
      exact absurd ha (by simp)
    · rw [hsome, Option.some.injEq] at ha
      exact ⟨m, hm, ha ▸ hb⟩

/-- A member that is present under its first spelling is checked there. -/
theorem required_eq_of_lookup {k : String} {others : List String} {check : β → Checked α}
    {members : List (String × β)} {v : β} (hlookup : members.lookup k = some v) :
    required (k :: others) check members = (check v).under (.key k) := by
  simp [required, pick, hlookup]

theorem optional_eq_of_lookup {k : String} {others : List String} {default : α}
    {check : β → Checked α} {members : List (String × β)} {v : β}
    (hlookup : members.lookup k = some v) :
    optional (k :: others) default check members = (check v).under (.key k) := by
  simp [optional, pick, hlookup]

theorem required_of_lookup {k : String} {others : List String} {check : β → Checked α}
    {members : List (String × β)} {v : β} {a : α} (hlookup : members.lookup k = some v)
    (hcheck : check v = .ok a) : required (k :: others) check members = .ok a := by
  rw [required_eq_of_lookup hlookup, hcheck, Checked.under_ok]

theorem optional_of_lookup {k : String} {others : List String} {default : α}
    {check : β → Checked α} {members : List (String × β)} {v : β} {a : α}
    (hlookup : members.lookup k = some v) (hcheck : check v = .ok a) :
    optional (k :: others) default check members = .ok a := by
  rw [optional_eq_of_lookup hlookup, hcheck, Checked.under_ok]

/-- A member without any of its spellings has its default. -/
theorem optional_of_absent {spellings : List String} {default : α} {check : β → Checked α}
    {members : List (String × β)} (habsent : ∀ k ∈ spellings, members.lookup k = none) :
    optional spellings default check members = .ok default := by
  have hpick : pick spellings members = none := by
    rw [pick, List.findSome?_eq_none_iff]
    intro k hk
    rw [habsent k hk, Option.map_none]
  rw [optional, hpick]

end Decode

end ClientScribe
