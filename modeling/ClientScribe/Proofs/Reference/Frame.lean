import ClientScribe.Proofs.Reference.Patched

/-!
What an override changes.  It replaces the members that it names, as a whole, and is to blame for
what is wrong with them; nothing else changes, and it changes nothing a second time.
-/

namespace ClientScribe

open Patch

section

variable {β : Type} [View β] {fixes : List (String × List (String × β))} {r s : Reference}

theorem Reference.override_ofMembers {members : List (String × β)}
    (h : fixes.lookup r.id = some members) :
    r.override (.ofMembers fixes) = Patch.ofMembers members r := by
  rw [override, Overrides.ofMembers, Json.lookup_map, h]
  rfl

/-- Without members to set, a reference stays as it is. -/
theorem Reference.override_eq_self
    (h : ∀ members, fixes.lookup r.id = some members → members = []) :
    r.override (.ofMembers fixes) = .ok r := by
  cases hfix : fixes.lookup r.id with
  | none =>
    rw [override, Overrides.ofMembers, Json.lookup_map, hfix]
    rfl
  | some members =>
    rw [override_ofMembers hfix, h members hfix]
    rfl

/-- The id tells the override, so a reference that keeps its id has the same one again. -/
theorem Reference.override_override (h : r.override (.ofMembers fixes) = .ok s)
    (hid : isSet fixes r.id "id" = false) : s.override (.ofMembers fixes) = .ok s := by
  have hsame : s.id = r.id := (keeps_of_override h).id hid
  cases hfix : fixes.lookup r.id with
  | none =>
    apply override_eq_self
    intro members hmembers
    rw [hsame, hfix] at hmembers
    exact absurd hmembers (by simp)
  | some members =>
    rw [override_ofMembers hfix] at h
    rw [override_ofMembers (hsame ▸ hfix)]
    exact Patch.ofMembers_self h

/-- What comes of a patch that keeps the kind of a reference. -/
structure Patch.Framed (members : List (String × β)) (r : Reference) (result : Checked Reference) :
    Prop where
  /-- It is taken exactly if every known member that it sets is right by itself. -/
  taken_iff : (∃ s, result = .ok s) ↔
    ∀ e ∈ checks r.content, ∀ v, value? members e.1 = some v → e.2 v = true
  /-- The result has the members that it sets and all others of the reference. -/
  patched : ∀ s, result = .ok s → Patched members r s
  /-- Keys that no reference of the kind has do not matter. -/
  known_only : ∀ others : List (String × β),
    (∀ key ∈ r.keys, value? others key = value? members key) → Patch.ofMembers others r = result
  /-- Every issue is in a member that it sets. -/
  blamed : ∀ issues, result = .rejected issues → ∀ i ∈ issues,
    ∃ key ∈ members.map Prod.fst, ∃ rest, i.path = .key r.kind :: .key key :: rest

theorem Reference.framed_override {members : List (String × β)}
    (hfix : fixes.lookup r.id = some members) (hkind : KeepsKind members r)
    (hnesting : r.content.nesting ≤ Decode.maxNesting) :
    Framed members r (r.override (.ofMembers fixes)) := by
  have hoverride : r.override (.ofMembers fixes) = (checked members r).under (.key r.kind) := by
    rw [override_ofMembers hfix, ofMembers_eq_checked hkind hnesting]
  refine ⟨?_, ?_, ?_, ?_⟩
  · rw [hoverride, ← Checked.isOk_iff, Checked.isOk_under]
    exact isOk_checked
  · intro s hs
    rw [hoverride, Checked.under_eq_ok_iff] at hs
    exact checked_eq_ok_iff.1 hs
  · intro others hothers
    rw [override_ofMembers hfix]
    exact ofMembers_congr hnesting hkind hothers
  · intro issues hissues i hi
    rw [hoverride] at hissues
    have hmem : i ∈ ((checked members r).under (.key r.kind)).issues := by rwa [hissues]
    rw [Checked.issues_under] at hmem
    obtain ⟨j, hj, rfl⟩ := List.mem_map.1 hmem
    obtain ⟨key, hkey, rest, hpath⟩ := blames_of_mem_issues_checked j hj
    exact ⟨key, hkey, rest, congrArg (.key r.kind :: ·) hpath⟩

/-- Overrides change what they name and nothing else. -/
theorem Reference.override_changes_named (fixes : List (String × List (String × β)))
    (r : Reference) :
    ((∀ members, fixes.lookup r.id = some members → members = []) →
      r.override (.ofMembers fixes) = .ok r)
    ∧ (∀ members, fixes.lookup r.id = some members → KeepsKind members r →
      r.content.nesting ≤ Decode.maxNesting →
        Framed members r (r.override (.ofMembers fixes)))
    ∧ ∀ s, r.override (.ofMembers fixes) = .ok s → isSet fixes r.id "id" = false →
      s.override (.ofMembers fixes) = .ok s :=
  ⟨override_eq_self, fun _ hfix hkind hnesting => framed_override hfix hkind hnesting,
    fun _ h hid => override_override h hid⟩

end

/-- A type is renamed, and a key that no reference has is passed over. -/
theorem renamed_type_keeps_fields :
    ∃ s, Reference.override (.ofMembers
          [("customer", [("name", Json.str "CustomerProfile"), ("note", Json.null)])])
        ⟨"collect", none, "customer", "Customer", "",
          .type [⟨"id", [.plain "string"], true, ""⟩]⟩ = .ok s
      ∧ s.name = "CustomerProfile"
      ∧ s.content = .type [⟨"id", [.plain "string"], true, ""⟩]
      ∧ s.override (.ofMembers
          [("customer", [("name", Json.str "CustomerProfile"), ("note", Json.null)])]) = .ok s := by
  obtain ⟨-, hframed, hagain⟩ := Reference.override_changes_named
    [("customer", [("name", Json.str "CustomerProfile"), ("note", Json.null)])]
    ⟨"collect", none, "customer", "Customer", "", .type [⟨"id", [.plain "string"], true, ""⟩]⟩
  have hkind : KeepsKind [("name", Json.str "CustomerProfile"), ("note", Json.null)]
      ⟨"collect", none, "customer", "Customer", "", .type [⟨"id", [.plain "string"], true, ""⟩]⟩ :=
    fun v hv => absurd hv (by simp [value?, List.lookup_cons])
  have hframe := hframed _ rfl hkind (by decide)
  obtain ⟨s, hs⟩ := hframe.taken_iff.2 (by
    simp [checks, value?, List.lookup_cons, Decode.text, View.shape, Checked.isOk])
  have hpatched := hframe.patched s hs
  refine ⟨s, hs, ?_, ?_, hagain s hs (by decide)⟩
  · exact (Checked.ok.inj hpatched.name).symm
  · exact hpatched.content.eq_of_unset (by simp [Content.keys, value?, List.lookup_cons])

/-- Arrays inside each other, around strings. -/
def TypeNode.arrays : Nat → TypeNode
  | 0 => .plain "string"
  | depth + 1 => .arrayOf [arrays depth]

theorem TypeNode.nesting_arrays (depth : Nat) : (arrays depth).nesting = depth + 1 := by
  induction depth with
  | zero => rfl
  | succ depth ih =>
    simp [arrays, arrayOf, plain, nesting, TypeField.nesting?, nesting?, nestingOf, ih]

/-- Types that are nested too deep cannot be written although the override leaves them; and another
kind is missing what the override does not name. -/
theorem unnamed_members_refused :
    (KeepsKind [("name", Json.str "X")]
        ⟨"p", none, "a", "A", "", .type [⟨"f", [.arrays 260], true, ""⟩]⟩
      ∧ (∀ e ∈ checks (.type [⟨"f", [.arrays 260], true, ""⟩]), ∀ v,
        value? [("name", Json.str "X")] e.1 = some v → e.2 v = true)
      ∧ ∀ s, Reference.override (.ofMembers [("a", [("name", Json.str "X")])])
        ⟨"p", none, "a", "A", "", .type [⟨"f", [.arrays 260], true, ""⟩]⟩ ≠ .ok s)
    ∧ Reference.override (.ofMembers [("a", [("kind", Json.str "request")])])
      ⟨"p", none, "a", "A", "", .type []⟩ =
        .rejected [⟨[.key "request", .key "method"], .missing⟩,
          ⟨[.key "request", .key "path"], .missing⟩] := by
  have hkind : KeepsKind [("name", Json.str "X")]
      ⟨"p", none, "a", "A", "", .type [⟨"f", [.arrays 260], true, ""⟩]⟩ :=
    fun v hv => absurd hv (by simp [value?, List.lookup_cons])
  refine ⟨⟨hkind, ?_, ?_⟩, rfl⟩
  · simp [checks, value?, List.lookup_cons, Decode.text, View.shape, Checked.isOk]
  · intro s hs
    have hfits := nesting_le_of_ofMembers (List.cons_ne_nil _ _) hs
    have hdeep : TypeField.nestingOf [⟨"f", [.arrays 260], true, ""⟩] = 262 := by
      simp [TypeField.nestingOf, TypeField.nesting, TypeNode.nestingOf, TypeNode.nesting_arrays]
    rw [Content.nesting, hdeep] at hfits
    exact absurd hfits (by decide)

end ClientScribe
