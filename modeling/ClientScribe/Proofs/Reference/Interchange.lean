import ClientScribe.Proofs.Json.Ascii
import ClientScribe.Proofs.Reference.Bound

/-!
The interchange text of references.  Reading what was written gives the references back if every
string of theirs is one in Unicode, and only then: half of a surrogate pair is written as an escape
that is refused by itself and that joins another half next to it.  The private characters that stand
for halves are left aside.
-/

namespace ClientScribe.Reference

open Text (isStorable)

/-- References as one value. -/
def encoded (rs : List Reference) : Json := .arr (rs.map toJson)

/-- Whether a reader follows references into their innermost types. -/
def IsShallow (rs : List Reference) : Prop :=
  (encoded rs).Within (fun _ => True) Json.strictDepth

/-- Whether every string of the references is one in Unicode, and has none of the 2048 private
characters U+FD800 to U+FDFFF, which stand for halves of surrogate pairs. -/
def IsUnicode (rs : List Reference) : Prop :=
  ∀ s, (encoded rs).HasText s → isStorable s = true

theorem writable_encoded (rs : List Reference) : (encoded rs).Writable :=
  .arr_map fun r _ => r.writable

/-- A text is loaded if it is read as a value that is decoded. -/
theorem load_eq_ok_iff {text : String} {rs : List Reference} :
    load text = .ok rs ↔
      ∃ w, Json.readStrict text = .ok w ∧ Decode.references (Json.Written.mk w) = .ok rs := by
  rw [load]
  cases Json.readStrict text with
  | error fault => simp [Checked.refuse]
  | ok w => simp

theorem toList_dump (rs : List Reference) :
    (dump rs).toList = Json.written (.indented 0) (encoded rs) ++ ['\n'] := by
  simp [dump, encoded, Json.pretty]

/-- A line of the text ends in a line feed alone. -/
theorem not_return_mem_dump (rs : List Reference) : '\r' ∉ (dump rs).toList := by
  rw [toList_dump, List.mem_append, List.mem_singleton]
  rintro (h | h)
  · exact absurd ((writable_encoded rs).isAscii_written _ _ h) (by decide)
  · exact absurd h (by decide)

/-- The text of references can always be stored. -/
theorem isStorable_dump (rs : List Reference) : isStorable (dump rs) = true := by
  rw [Text.isStorable_iff, toList_dump, List.forall_mem_append, List.forall_mem_singleton]
  refine ⟨?_, by decide⟩
  intro c hc
  have hcode : c.toNat ≤ '~'.toNat := by
    rcases (writable_encoded rs).isAscii_written _ c hc with rfl | ⟨-, hc⟩
    · decide
    · exact hc
  exact Text.half?_eq_none_of_lt (Nat.lt_of_le_of_lt hcode (by decide))

/-- The text of references is read as what a strict reader makes of their value. -/
theorem readStrict_dump_eq_ok_iff {rs : List Reference} {w : Json} :
    Json.readStrict (dump rs) = .ok w ↔
      Json.rereadValue? true Json.strictDepth (encoded rs) = some w := by
  have hgap : Json.skipGap ['\n'] = [] := by decide
  rw [← Json.readWith_written (writable_encoded rs) true Json.strictDepth (.indented 0) hgap,
    Json.readStrict, toList_dump]
  cases Json.readWith true Json.strictDepth (Json.written (.indented 0) (encoded rs) ++ ['\n']) <;>
    simp [Except.toOption]

theorem references_encoded {rs : List Reference} (h : IsShallow rs) :
    Decode.references (Json.Written.mk (encoded rs)) = .ok rs := by
  apply Decode.list_of_encoded Json.Written.shown
  intro r hr
  apply Decode.reference_of_within
  intro m hm
  have hr : r.toJson.Within (fun _ => True) Json.strictDepth :=
    Json.Within.item h r.toJson (List.mem_map_of_mem hr)
  rcases Json.within_obj_iff.1 hr with hnil | ⟨d, hd, hall⟩
  · simp [toMembers] at hnil
  · have hmem : m ∈ r.toMembers := List.mem_append_right _ hm
    have hroom : d ≤ Decode.maxNesting := by
      rw [Json.strictDepth] at hd
      rw [Decode.maxNesting]
      omega
    exact (hall m hmem).mono hroom

/-- Written in Unicode, references are read back. -/
theorem load_dump {rs : List Reference} (hshallow : IsShallow rs) (hunicode : IsUnicode rs) :
    load (dump rs) = .ok rs := by
  have hwithin : (encoded rs).Within (fun s => isStorable s = true) Json.strictDepth :=
    Json.within_iff.2 ⟨hshallow, hunicode⟩
  have hread := readStrict_dump_eq_ok_iff.2 (Json.rereadValue?_of_within hwithin)
  exact load_eq_ok_iff.2 ⟨encoded rs, hread, references_encoded hshallow⟩

/-- Where a strict reader gives up the text is refused. -/
theorem exists_rejected_of_reread {rs : List Reference}
    (h : Json.rereadValue? true Json.strictDepth (encoded rs) = none) :
    ∃ issues, load (dump rs) = .rejected issues := by
  rw [load]
  cases hread : Json.readStrict (dump rs) with
  | error fault => exact ⟨_, rfl⟩
  | ok w =>
    rw [readStrict_dump_eq_ok_iff, h] at hread
    exact absurd hread (by simp)

/-- What is loaded is shallow, and a property that its text guarantees for the strings that are read
is one of its own strings. -/
theorem within_of_load {P : String → Prop} (hempty : P "") (hkinds : ∀ c : Content, P c.kind)
    {text : String} {rs : List Reference} (hload : load text = .ok rs)
    (htexts : ∀ w, Json.readStrict text = .ok w → ∀ s, w.HasText s → P s) :
    (encoded rs).Within P Json.strictDepth := by
  obtain ⟨w, hread, hdecode⟩ := load_eq_ok_iff.1 hload
  have hwithin : w.Within P Json.strictDepth :=
    Json.within_iff.2 ⟨Json.within_of_readWith hread, htexts w hread⟩
  exact Decode.Keeps.ofReferences hempty hkinds _ (Json.Written.mk w) rs hdecode hwithin

theorem isShallow_of_load {text : String} {rs : List Reference} (hload : load text = .ok rs) :
    IsShallow rs :=
  within_of_load trivial (fun _ => trivial) hload fun _ _ _ _ => trivial

/-- Where references are read back, a string that is none in Unicode would have to come from a
longer one: a strict reader shortens such a string or refuses it. -/
theorem exists_longer {rs : List Reference} (hload : load (dump rs) = .ok rs) {s : String}
    (hs : (encoded rs).HasText s) (hunicode : isStorable s = false) :
    ∃ t, (encoded rs).HasText t ∧ isStorable t = false ∧ s.length < t.length := by
  have hkept : (encoded rs).Within
      (fun s => isStorable s = true ∨
        ∃ t, (encoded rs).HasText t ∧ isStorable t = false ∧ s.length < t.length)
      Json.strictDepth := by
    refine within_of_load (.inl (by decide)) ?_ hload ?_
    · intro c
      left
      cases c <;> rw [Content.kind] <;> decide
    · intro w hread t ht
      obtain ⟨u, hu, hreread⟩ :=
        Json.hasText_of_rereadValue? (readStrict_dump_eq_ok_iff.1 hread) ht
      rcases Json.rereadString?_strict hreread with ⟨rfl, hstorable⟩ | hlt
      · exact .inl hstorable
      · cases hu' : isStorable u with
        | false => exact .inr ⟨u, hu, hu', hlt⟩
        | true =>
          rw [Json.rereadString?_of_isStorable true hu', Option.some.injEq] at hreread
          exact .inl (hreread ▸ hu')
  rcases hkept.hasText hs with hstorable | hlonger
  · rw [hunicode] at hstorable
    exact absurd hstorable (by simp)
  · exact hlonger

/-- References that are read back are in Unicode: otherwise their strings would grow for ever. -/
theorem isUnicode_of_load_dump {rs : List Reference} (hload : load (dump rs) = .ok rs) :
    IsUnicode rs := by
  obtain ⟨bound, hbound⟩ := Json.Within.exists_bound (isShallow_of_load hload)
  have hstorable (n : Nat) : ∀ s, (encoded rs).HasText s → bound ≤ s.length + n →
      isStorable s = true := by
    induction n with
    | zero =>
      intro s hs hle
      exact absurd (hbound s hs) (Nat.not_lt.2 hle)
    | succ n ih =>
      intro s hs hle
      cases hs' : isStorable s with
      | true => rfl
      | false =>
        obtain ⟨t, ht, ht', hlt⟩ := exists_longer hload hs hs'
        rw [ih t ht (by omega)] at ht'
        exact absurd ht' (by simp)
  intro s hs
  exact hstorable bound s hs (Nat.le_add_left bound s.length)

/-- Written references are loaded as they were if they are shallow and in Unicode, and otherwise
they are not; in Unicode means without the characters U+FD800 to U+FDFFF that stand for halves.
Within these bounds no other references have the same text, and what was loaded is loaded again from
its own text. -/
theorem interchange_faithful (rs : List Reference) :
    (load (dump rs) = .ok rs ↔ IsShallow rs ∧ IsUnicode rs)
    ∧ (∀ rs', IsShallow rs → IsUnicode rs → IsShallow rs' → IsUnicode rs' → dump rs = dump rs' →
      rs = rs')
    ∧ ∀ text, load text = .ok rs → IsUnicode rs → load (dump rs) = .ok rs := by
  refine ⟨?_, ?_, ?_⟩
  · constructor
    · intro h
      exact ⟨isShallow_of_load h, isUnicode_of_load_dump h⟩
    · rintro ⟨hshallow, hunicode⟩
      exact load_dump hshallow hunicode
  · intro rs' hs hu hs' hu' heq
    have h := load_dump hs hu
    rw [heq, load_dump hs' hu', Checked.ok.injEq] at h
    exact h.symm
  · intro text hload hu
    exact load_dump (isShallow_of_load hload) hu

/-- A type whose one field has alternatives inside an array and inside an object. -/
def sample : Reference :=
  ⟨"collect", none, "customer-object", "Customer", "", .type [⟨"é\n", [TypeNode.arrayOf
    [⟨"object", some "", some [], some [⟨"id", [TypeNode.plain "string"], false, "😀"⟩], none,
      none⟩]], true, ""⟩]⟩

theorem sample_bounds : IsShallow [sample] ∧ IsUnicode [sample] :=
  Json.within_iff.1 (by decide)

theorem interchange_faithful_sample :
    (IsShallow [sample] ∧ IsUnicode [sample]) ∧ load (dump [sample]) = .ok [sample] := by
  obtain ⟨hiff, -, hagain⟩ := interchange_faithful [sample]
  have hload := hiff.2 sample_bounds
  exact ⟨sample_bounds, hagain (dump [sample]) hload sample_bounds.2⟩

/-- A type with half of a surrogate pair for the type of a field. -/
def halved : Reference :=
  ⟨"p", none, "a", "A", "", .type [⟨"a", [TypeNode.plain (String.singleton (Text.ofCode 0xD800))],
    true, ""⟩]⟩

/-- The text of such references is refused. -/
theorem load_dump_halved : load (dump [halved]) = .rejected [⟨[], .notJson⟩] := by
  have hnone : Json.rereadValue? true Json.strictDepth (encoded [halved]) = none := rfl
  rw [load]
  cases hread : Json.readStrict (dump [halved]) with
  | error fault => rfl
  | ok w =>
    rw [readStrict_dump_eq_ok_iff, hnone] at hread
    exact absurd hread (by simp)

end ClientScribe.Reference
