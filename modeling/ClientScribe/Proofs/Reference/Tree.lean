import ClientScribe.Reference.Type

/-!
Types as trees.  A type stands over the fields of its inline object and over the element types of
its array, and a field stands over its alternatives.  Two types are the same tree exactly if they
are equal.
-/

namespace ClientScribe

variable {P : TypeNode → Prop} {Q : TypeField → Prop}

/-- What passes from everything below a type to the type, and from the alternatives of a field to
the field, holds of every type. -/
theorem TypeNode.induction
    (node : ∀ n : TypeNode, (∀ fs, n.fields = some fs → ∀ f ∈ fs, Q f) →
      (∀ ts, n.arrayTypes = some ts → ∀ t ∈ ts, P t) → P n)
    (field : ∀ f : TypeField, (∀ t ∈ f.types, P t) → Q f) (n : TypeNode) : P n :=
  @TypeNode.rec P Q (fun o => ∀ fs, o = some fs → ∀ f ∈ fs, Q f)
    (fun o => ∀ ts, o = some ts → ∀ t ∈ ts, P t) (fun ts => ∀ t ∈ ts, P t)
    (fun fs => ∀ f ∈ fs, Q f)
    (fun _ _ _ _ _ _ hfields htypes => node _ hfields htypes)
    (fun _ _ _ _ htypes => field _ htypes)
    (fun _ h => nomatch h)
    (fun _ hall _ h => Option.some.inj h ▸ hall)
    (fun _ h => nomatch h)
    (fun _ hall _ h => Option.some.inj h ▸ hall)
    (List.forall_mem_nil _)
    (fun _ _ hhead htail => List.forall_mem_cons.2 ⟨hhead, htail⟩)
    (List.forall_mem_nil _)
    (fun _ _ hhead htail => List.forall_mem_cons.2 ⟨hhead, htail⟩)
    n

/-- The same for every field. -/
theorem TypeField.induction
    (node : ∀ n : TypeNode, (∀ fs, n.fields = some fs → ∀ f ∈ fs, Q f) →
      (∀ ts, n.arrayTypes = some ts → ∀ t ∈ ts, P t) → P n)
    (field : ∀ f : TypeField, (∀ t ∈ f.types, P t) → Q f) (f : TypeField) : Q f :=
  field f fun t _ => TypeNode.induction node field t

/-! ### Equality -/

theorem TypeNode.sameList_iff {ts us : List TypeNode}
    (h : ∀ t ∈ ts, ∀ u, TypeNode.same t u = true ↔ t = u) :
    TypeNode.sameList ts us = true ↔ ts = us := by
  induction ts generalizing us with
  | nil => cases us <;> simp [TypeNode.sameList]
  | cons t ts ih =>
    obtain ⟨ht, hts⟩ := List.forall_mem_cons.1 h
    cases us with
    | nil => simp [TypeNode.sameList]
    | cons u us => simp only [TypeNode.sameList, Bool.and_eq_true, ht, ih hts, List.cons.injEq]

theorem TypeField.sameList_iff {fs gs : List TypeField}
    (h : ∀ f ∈ fs, ∀ g, TypeField.same f g = true ↔ f = g) :
    TypeField.sameList fs gs = true ↔ fs = gs := by
  induction fs generalizing gs with
  | nil => cases gs <;> simp [TypeField.sameList]
  | cons f fs ih =>
    obtain ⟨hf, hfs⟩ := List.forall_mem_cons.1 h
    cases gs with
    | nil => simp [TypeField.sameList]
    | cons g gs => simp only [TypeField.sameList, Bool.and_eq_true, hf, ih hfs, List.cons.injEq]

theorem TypeNode.sameOption_iff {ts us : Option (List TypeNode)}
    (h : ∀ l, ts = some l → ∀ t ∈ l, ∀ u, TypeNode.same t u = true ↔ t = u) :
    TypeNode.sameOption ts us = true ↔ ts = us := by
  cases ts with
  | none => cases us <;> simp [TypeNode.sameOption]
  | some l =>
    cases us with
    | none => simp [TypeNode.sameOption]
    | some m => simp only [TypeNode.sameOption, TypeNode.sameList_iff (h l rfl), Option.some.injEq]

theorem TypeField.sameOption_iff {fs gs : Option (List TypeField)}
    (h : ∀ l, fs = some l → ∀ f ∈ l, ∀ g, TypeField.same f g = true ↔ f = g) :
    TypeField.sameOption fs gs = true ↔ fs = gs := by
  cases fs with
  | none => cases gs <;> simp [TypeField.sameOption]
  | some l =>
    cases gs with
    | none => simp [TypeField.sameOption]
    | some m =>
      simp only [TypeField.sameOption, TypeField.sameList_iff (h l rfl), Option.some.injEq]

/-- Structural equality is equality. -/
theorem TypeNode.same_iff (n u : TypeNode) : TypeNode.same n u = true ↔ n = u := by
  revert u
  apply TypeNode.induction (P := fun n => ∀ u, TypeNode.same n u = true ↔ n = u)
    (Q := fun f => ∀ g, TypeField.same f g = true ↔ f = g)
  · rintro ⟨tag, startsWith, possibleValues, fields, id, arrayTypes⟩ hfields htypes
      ⟨tag', startsWith', possibleValues', fields', id', arrayTypes'⟩
    simp only [TypeNode.same, Bool.and_eq_true, beq_iff_eq, TypeField.sameOption_iff hfields,
      TypeNode.sameOption_iff htypes, TypeNode.mk.injEq]
    constructor
    · rintro ⟨⟨⟨⟨⟨htag, hstart⟩, hvalues⟩, hid⟩, hfs⟩, hts⟩
      exact ⟨htag, hstart, hvalues, hfs, hid, hts⟩
    · rintro ⟨htag, hstart, hvalues, hfs, hid, hts⟩
      exact ⟨⟨⟨⟨⟨htag, hstart⟩, hvalues⟩, hid⟩, hfs⟩, hts⟩
  · rintro ⟨name, types, required, description⟩ htypes ⟨name', types', required', description'⟩
    simp only [TypeField.same, Bool.and_eq_true, beq_iff_eq, TypeNode.sameList_iff htypes,
      TypeField.mk.injEq, and_assoc]

instance : LawfulBEq TypeNode where
  rfl {n} := (TypeNode.same_iff n n).2 rfl
  eq_of_beq {n u} h := (TypeNode.same_iff n u).1 h

end ClientScribe
