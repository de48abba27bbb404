import ClientScribe.Config
import ClientScribe.Proofs.Reference.Bound

/-!
What overrides keep.  The members that an override does not set are read back from the reference, so
product, parent, id, name, description and kind are what they were unless the override sets them.
-/

namespace ClientScribe

open View (shape)

/-- Overrides by ids and by the members that they set. -/
def Overrides.ofMembers {β : Type} [View β] (fixes : List (String × List (String × β))) :
    Overrides :=
  fixes.map fun f => (f.1, Patch.ofMembers f.2)

/-- What the overrides among patches set, by the ids that are texts. -/
def Config.Patches.fixes (ps : Config.Patches) : List (String × List (String × Yaml.Item)) :=
  ps.entries.filterMap fun e =>
    match ps.document.text? e.1, ps.document.shape e.2 with
    | some id, .record members => some (id, members)
    | _, _ => none

/-- The overrides of a configuration file set members. -/
theorem Config.Patches.overrides_eq (ps : Config.Patches) :
    ps.overrides = .ofMembers ps.fixes := by
  rw [overrides, Overrides.ofMembers, fixes, List.map_filterMap]
  congr 1
  funext e
  split <;> simp_all

theorem Config.exists_of_overrides [Interpreter] {source : Option Source} {overrides : Overrides}
    (h : Config.overrides source = .ok overrides) :
    ∃ fixes : List (String × List (String × Yaml.Item)), overrides = .ofMembers fixes := by
  obtain ⟨ps, -, rfl⟩ := Json.map_eq_ok_iff.1 h
  exact ⟨ps.fixes, ps.overrides_eq⟩

section

variable {β : Type} [View β]

/-- Whether the override for an id sets a member. -/
def isSet (fixes : List (String × List (String × β))) (id key : String) : Bool :=
  (fixes.lookup id).any fun members => (members.map Prod.fst).contains key

namespace Decode

theorem decodedBy_of_content_eq_ok {members : List (String × β)} {kind : Kind} {c : Content}
    (h : content members kind = .ok c) : c.decodedBy = kind := by
  cases kind <;> obtain ⟨_, -, rfl⟩ := Checked.map_eq_ok_iff.1 h <;> rfl

end Decode

theorem Content.kind_eq_of_decodedBy {c c' : Content} (h : c.decodedBy = c'.decodedBy) :
    c.kind = c'.kind := by
  cases c <;> cases c' <;> first | rfl | exact absurd h (by simp [decodedBy])

/-- What a reference keeps of another one, by the keys that still have their values. -/
structure Reference.Keeps (key : String → Prop) (r s : Reference) : Prop where
  product : key "product" → s.product = r.product
  parent : key "parent" → s.parent = r.parent
  id : key "id" → s.id = r.id
  name : key "name" → s.name = r.name
  description : key "description" → s.description = r.description
  kind : key "kind" → s.kind = r.kind

theorem Reference.Keeps.refl (key : String → Prop) (r : Reference) : Keeps key r r :=
  ⟨fun _ => rfl, fun _ => rfl, fun _ => rfl, fun _ => rfl, fun _ => rfl, fun _ => rfl⟩

/-- Members that are those of a reference are read as they were. -/
theorem Decode.keeps_of_referenceFrom {members : List (String × (Json ⊕ β))} {r s : Reference}
    (h : referenceFrom members = .ok s) {key : String → Prop}
    (hkept : ∀ k, key k → members.lookup k = (r.toMembers.lookup k).map .inl) :
    r.Keeps key s := by
  obtain ⟨v, name, kind, hlookup, hkindOf, hproduct, hparent, hid, hname, hdescription, hcontent⟩ :=
    of_referenceFrom_eq_ok h
  obtain ⟨rproduct, rparent, rid, rname, rdescription, rkind⟩ := r.lookup_toMembers
  have hpresent {k t : String} (hk : key k) (hown : r.toMembers.lookup k = some (.str t)) :
      members.lookup k = some (.inl (.str t)) := by
    rw [hkept k hk, hown]
    rfl
  have htext {k t t' : String} (hread : required [k] text members = .ok t')
      (hown : r.toMembers.lookup k = some (.str t)) (hk : key k) : t' = t :=
    Checked.ok.inj (hread.symm.trans (required_of_lookup (hpresent hk hown) rfl))
  refine ⟨htext hproduct rproduct, ?_, htext hid rid, htext hname rname, ?_, ?_⟩
  · intro hk
    cases howner : r.parent with
    | none =>
      have habsent : ∀ k ∈ ["parent"], members.lookup k = none := by
        rw [List.forall_mem_singleton, hkept _ hk, rparent, howner]
        rfl
      exact Checked.ok.inj (hparent.symm.trans (optional_of_absent habsent))
    | some owner =>
      rw [howner] at rparent
      exact Checked.ok.inj (hparent.symm.trans (optional_of_lookup (hpresent hk rparent) rfl))
  · intro hk
    exact Checked.ok.inj
      (hdescription.symm.trans (optional_of_lookup (hpresent hk rdescription) rfl))
  · intro hk
    have hread : kindOf (.inl (.str r.kind) : Json ⊕ β) = .ok (r.kind, r.content.decodedBy) := by
      simp [kindOf, shape, Shape.map, Reference.kind, Content.kind?_kind]
    rw [hpresent hk rkind, Option.some.injEq] at hlookup
    rw [← hlookup, hread, Checked.ok.injEq, Prod.mk.injEq] at hkindOf
    exact Content.kind_eq_of_decodedBy
      ((decodedBy_of_content_eq_ok hcontent).trans hkindOf.2.symm)

/-- A patch keeps what it does not set. -/
theorem Patch.keeps_of_ofMembers {members : List (String × β)} {r s : Reference}
    (h : ofMembers members r = .ok s) : r.Keeps (· ∉ members.map Prod.fst) s := by
  rw [ofMembers] at h
  split at h
  · rw [Checked.ok.inj h]
    exact .refl _ s
  · split at h
    · exact absurd h (by simp [Checked.refuse])
    refine Decode.keeps_of_referenceFrom h ?_
    intro k hk
    rw [Json.lookup_override_of_not_mem (by simpa using hk), Json.lookup_map]

/-- An override keeps what it does not set. -/
theorem Reference.keeps_of_override {fixes : List (String × List (String × β))} {r s : Reference}
    (h : r.override (.ofMembers fixes) = .ok s) : r.Keeps (isSet fixes r.id · = false) s := by
  rw [override, Overrides.ofMembers, Json.lookup_map] at h
  cases hfix : fixes.lookup r.id with
  | none =>
    rw [hfix] at h
    rw [Checked.ok.inj h]
    exact .refl _ s
  | some members =>
    rw [hfix] at h
    have hkeys (k : String) : isSet fixes r.id k = false ↔ k ∉ members.map Prod.fst := by
      rw [isSet, hfix, Option.any_some, List.contains_eq_mem, decide_eq_false_iff_not]
    simp only [hkeys]
    exact Patch.keeps_of_ofMembers h

end

end ClientScribe
