import ClientScribe.Reference.Codec

/-!
Manual overrides.  An override replaces members of a reference as a whole, and the result has to be
a reference again.  The reference is written as its members first, which fails by itself where its
types are inside too many others.
-/

namespace ClientScribe

/-- What an override makes of a reference. -/
abbrev Patch := Reference → Checked Reference

/-- The patch that sets members; without any it changes nothing. -/
def Patch.ofMembers {β : Type} [View β] (members : List (String × β)) : Patch := fun r =>
  if members.isEmpty then .ok r
  else if Decode.maxNesting < r.content.nesting then .refuse .unwritable
  else
    let own : List (String × (Json ⊕ β)) := r.toMembers.map fun m => (m.1, .inl m.2)
    Decode.referenceFrom (Json.override own (members.map fun m => (m.1, .inr m.2)))

/-- Patches by the id of the reference they are for. -/
abbrev Overrides := List (String × Patch)

/-- Applies the patch for a reference. -/
def Reference.override (overrides : Overrides) (r : Reference) : Checked Reference :=
  match overrides.lookup r.id with
  | some patch => patch r
  | none => .ok r

end ClientScribe
