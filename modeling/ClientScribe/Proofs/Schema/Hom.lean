import ClientScribe.Proofs.Schema.Decode

/-!
Checks do not care where a value comes from.  A map that keeps what checks see of values, and that
tells them apart as before, changes no answer of a check; so a value that is put among others of
another source is checked as it is by itself.
-/

namespace ClientScribe

open View (shape mark?)

/-- A map that keeps what checks see. -/
structure View.Hom {β γ : Type} [View β] [View γ] (f : β → γ) : Prop where
  shape_eq : ∀ v, shape (f v) = (shape v).map f
  mark?_eq : ∀ v, mark? (f v) = mark? v

theorem View.hom_inr {β γ : Type} [View β] [View γ] : View.Hom (Sum.inr : γ → β ⊕ γ) :=
  ⟨fun _ => rfl, fun _ => rfl⟩

/-- What is mapped to a text is that text. -/
theorem Shape.eq_text_of_map {α β : Type} {f : α → β} {sh : Shape α} {t : String}
    (h : sh.map f = .text t) : sh = .text t := by
  cases sh with
  | text s =>
    rw [Shape.map, Shape.text.injEq] at h
    rw [h]
  | _ => exact absurd h (by simp [Shape.map])

/-- Members with their values mapped. -/
def mapValues {β γ : Type} (f : β → γ) (members : List (String × β)) : List (String × γ) :=
  members.map fun m => (m.1, f m.2)

theorem lookup_mapValues {β γ : Type} (f : β → γ) (members : List (String × β)) (k : String) :
    (mapValues f members).lookup k = (members.lookup k).map f := Json.lookup_map f members k

/-- A way to show those JSON values of which references are made, as what they are. -/
structure Json.Shown {β : Type} [View β] (view : Json → β) : Prop where
  str : ∀ s, shape (view (.str s)) = .text s
  bool : ∀ b, shape (view (.bool b)) = .bool b
  arr : ∀ vs, shape (view (.arr vs)) = .list (vs.map view)
  obj : ∀ members, shape (view (.obj members)) = .record (mapValues view members)
  mark?_eq : ∀ v, mark? (view v) = none

theorem Json.Written.shown : Json.Shown Json.Written.mk :=
  ⟨fun _ => rfl, fun _ => rfl, fun _ => rfl, fun _ => rfl, fun _ => rfl⟩

theorem Json.shown_inl {β : Type} [View β] : Json.Shown (Sum.inl : Json → Json ⊕ β) := by
  refine ⟨fun _ => rfl, fun _ => rfl, fun _ => rfl, ?_, fun _ => rfl⟩
  intro members
  simp [shape, Shape.map, mapValues]

namespace Decode

variable {α β γ : Type}

theorem itemsFrom_hom {f : β → γ} {check : β → Checked α} {check' : γ → Checked α}
    (h : ∀ v, check' (f v) = check v) (i : Nat) (vs : List β) :
    itemsFrom check' i (vs.map f) = itemsFrom check i vs := by
  induction vs generalizing i with
  | nil => rfl
  | cons v vs ih => rw [List.map_cons, itemsFrom, itemsFrom, h, ih]

theorem pick_hom (f : β → γ) (spellings : List String) (members : List (String × β)) :
    pick spellings (mapValues f members) = (pick spellings members).map fun m => (m.1, f m.2) := by
  induction spellings with
  | nil => rfl
  | cons k spellings ih =>
    simp only [pick, List.findSome?_cons] at ih ⊢
    rw [lookup_mapValues]
    cases members.lookup k with
    | none => exact ih
    | some v => rfl

section

variable {f : β → γ} {check : β → Checked α} {check' : γ → Checked α} {members : List (String × β)}

theorem required_hom (h : ∀ v, check' (f v) = check v) (spellings : List String) :
    required spellings check' (mapValues f members) = required spellings check members := by
  rw [required, required, pick_hom]
  cases pick spellings members with
  | none => rfl
  | some m => simp only [Option.map_some, h]

theorem optional_hom (h : ∀ v, check' (f v) = check v) (spellings : List String) (default : α) :
    optional spellings default check' (mapValues f members) =
      optional spellings default check members := by
  rw [optional, optional, pick_hom]
  cases pick spellings members with
  | none => rfl
  | some m => simp only [Option.map_some, h]

end

section

variable [View β] [View γ] {f : β → γ} (hf : View.Hom f)

include hf

theorem text_hom (v : β) : text (f v) = text v := by
  rw [text, text, hf.shape_eq]
  cases shape v <;> rfl

theorem flag_hom (v : β) : flag (f v) = flag v := by
  rw [flag, flag, hf.shape_eq]
  cases shape v <;> rfl

theorem isNull_hom (v : β) : isNull (f v) = isNull v := by
  rw [isNull, isNull, hf.shape_eq]
  cases shape v <;> rfl

variable {check : β → Checked α} {check' : γ → Checked α}

theorem list_hom (h : ∀ v, check' (f v) = check v) (v : β) : list check' (f v) = list check v := by
  rw [list, list, hf.shape_eq]
  cases shape v with
  | list vs => exact itemsFrom_hom h 0 vs
  | _ => rfl

theorem nullable_hom (h : ∀ v, check' (f v) = check v) (v : β) :
    nullable check' (f v) = nullable check v := by
  rw [nullable, nullable, isNull_hom hf, h]

theorem record_hom {check : List (String × β) → Checked α} {check' : List (String × γ) → Checked α}
    (h : ∀ members, check' (mapValues f members) = check members) (v : β) :
    record check' (f v) = record check v := by
  rw [record, record, hf.shape_eq]
  cases shape v with
  | record members => exact h members
  | _ => rfl

theorem holds_hom (around : Around) (role : Role) (v : β) :
    around.holds role (f v) = around.holds role v := by
  rw [Around.holds, Around.holds, hf.mark?_eq]

theorem enter_hom (around : Around) (role : Role) (v : β) :
    around.enter role (f v) = around.enter role v := by
  rw [Around.enter, Around.enter, hf.mark?_eq]

theorem nested_hom {role : Role} {check : Around → List (String × β) → Checked α}
    {check' : Around → List (String × γ) → Checked α}
    (h : ∀ around members, check' around (mapValues f members) = check around members)
    (around : Around) (v : β) : nested role check' around (f v) = nested role check around v := by
  rw [nested, nested, holds_hom hf, enter_hom hf, record_hom hf (h _)]

end

end Decode

end ClientScribe
