import ClientScribe.Client.TypeText
import ClientScribe.Proofs.Reference.Tree

/-!
The types of a declaration as trees.  A type is written by rendering its tree, so what the text
names is told by the tree.
-/

namespace ClientScribe.Client

/-- A written type. -/
inductive TypeExpr where
  /-- A keyword or a literal. -/
  | word (text : String)
  /-- A type that is declared elsewhere. -/
  | partialOf (target : Reference)
  | inline (members : List (String × List TypeExpr))
  | array (alternatives : List TypeExpr)

namespace TypeExpr

mutual

def text : TypeExpr → String
  | .word text => text
  | .partialOf target => s!"Partial<{target.name}>"
  | .inline members => "\x7b " ++ "; ".intercalate (memberTexts members) ++ " \x7d"
  | .array alternatives => "(" ++ " | ".intercalate (texts alternatives) ++ ")[]"

def texts : List TypeExpr → List String
  | [] => []
  | e :: es => e.text :: texts es

def memberTexts : List (String × List TypeExpr) → List String
  | [] => []
  | (name, types) :: ms =>
    (property name ++ ": " ++ " | ".intercalate (texts types)) :: memberTexts ms

end

/-- Where a type names a reference: `inside` tells whether an inline object is around the name. -/
inductive Names (target : Reference) : (inside : Bool) → TypeExpr → Prop
  | here : Names target false (.partialOf target)
  | element {inside : Bool} {es : List TypeExpr} {e : TypeExpr} (hmem : e ∈ es)
    (h : Names target inside e) : Names target inside (.array es)
  | member {inside : Bool} {ms : List (String × List TypeExpr)} {m : String × List TypeExpr}
    {e : TypeExpr} (hmem : m ∈ ms) (htype : e ∈ m.2) (h : Names target inside e) :
    Names target true (.inline ms)

end TypeExpr

/-! ### The trees of types -/

section

variable (references : List Reference)

/-- An object that is described elsewhere. -/
def referenceExpr (id : Option String) : TypeExpr :=
  match (id.filter (!·.isEmpty)).bind fun id => Reference.find? id references with
  | some target => .partialOf target
  | none => .word "object"

mutual

def nodeExpr : TypeNode → TypeExpr
  | ⟨tag, startsWith, possibleValues, fields, id, arrayTypes⟩ =>
    if tag = "string" then .word (stringText startsWith possibleValues)
    else if tag = "object" then objectExpr id fields
    else if tag = "number" || tag = "boolean" then .word tag
    else if tag = "array" then elementsExpr arrayTypes
    else .word "unknown"

def objectExpr (id : Option String) : Option (List TypeField) → TypeExpr
  | none | some [] => referenceExpr references id
  | some (f :: fs) => .inline (memberExprs (f :: fs))

def elementsExpr : Option (List TypeNode) → TypeExpr
  | none | some [] => .word "any[]"
  | some (t :: ts) => .array (nodeExprs (t :: ts))

def nodeExprs : List TypeNode → List TypeExpr
  | [] => []
  | t :: ts => nodeExpr t :: nodeExprs ts

def memberExprs : List TypeField → List (String × List TypeExpr)
  | [] => []
  | ⟨name, types, _, _⟩ :: fs => (name, nodeExprs types) :: memberExprs fs

end

variable {references}

theorem nodeExprs_eq_map (ts : List TypeNode) :
    nodeExprs references ts = ts.map (nodeExpr references) := by
  induction ts with
  | nil => rfl
  | cons t ts ih => rw [nodeExprs, ih, List.map_cons]

theorem referenceText_eq (id : Option String) :
    referenceText references id = (referenceExpr references id).text := by
  rw [referenceText, referenceExpr]
  cases (id.filter (!·.isEmpty)).bind fun id => Reference.find? id references <;> rfl

theorem nodeTexts_eq {ts : List TypeNode}
    (h : ∀ t ∈ ts, nodeText references t = (nodeExpr references t).text) :
    nodeTexts references ts = TypeExpr.texts (nodeExprs references ts) := by
  induction ts with
  | nil => rfl
  | cons t ts ih =>
    rw [nodeTexts, nodeExprs, TypeExpr.texts, h t List.mem_cons_self,
      ih fun u hu => h u (List.mem_cons_of_mem t hu)]

theorem memberTexts_eq {fs : List TypeField}
    (h : ∀ f ∈ fs, ∀ t ∈ f.types, nodeText references t = (nodeExpr references t).text) :
    memberTexts references fs = TypeExpr.memberTexts (memberExprs references fs) := by
  induction fs with
  | nil => rfl
  | cons f fs ih =>
    have hf := nodeTexts_eq (h f List.mem_cons_self)
    obtain ⟨name, types, required, description⟩ := f
    rw [memberTexts, memberExprs, TypeExpr.memberTexts, hf,
      ih fun g hg => h g (List.mem_cons_of_mem _ hg)]

theorem objectText_eq {id : Option String} {fields : Option (List TypeField)}
    (h : ∀ fs, fields = some fs → ∀ f ∈ fs, ∀ t ∈ f.types,
      nodeText references t = (nodeExpr references t).text) :
    objectText references id fields = (objectExpr references id fields).text := by
  match fields with
  | none | some [] => exact referenceText_eq id
  | some (f :: fs) => rw [objectText, objectExpr, TypeExpr.text, memberTexts_eq (h _ rfl)]

theorem elementsText_eq {types : Option (List TypeNode)}
    (h : ∀ ts, types = some ts → ∀ t ∈ ts, nodeText references t = (nodeExpr references t).text) :
    elementsText references types = (elementsExpr references types).text := by
  match types with
  | none | some [] => rfl
  | some (t :: ts) => rw [elementsText, elementsExpr, TypeExpr.text, nodeTexts_eq (h _ rfl)]

/-- Every type is written as its tree says. -/
theorem nodeText_eq (n : TypeNode) : nodeText references n = (nodeExpr references n).text := by
  apply TypeNode.induction
    (P := fun n => nodeText references n = (nodeExpr references n).text)
    (Q := fun f => ∀ t ∈ f.types, nodeText references t = (nodeExpr references t).text)
  · intro n hfields htypes
    obtain ⟨tag, startsWith, possibleValues, fields, id, arrayTypes⟩ := n
    have hobject : objectText references id fields = (objectExpr references id fields).text :=
      objectText_eq hfields
    have helements := elementsText_eq htypes
    rw [nodeText, nodeExpr, hobject, helements]
    simp only [apply_ite TypeExpr.text, TypeExpr.text]
  · intro f htypes
    exact htypes

theorem typeText_eq (types : List TypeNode) :
    typeText references types =
      " | ".intercalate (TypeExpr.texts (nodeExprs references types)) := by
  rw [typeText, nodeTexts_eq fun t _ => nodeText_eq t]

/-! ### The walk over the ids -/

theorem mem_typeIds {ts : List TypeNode} {id : String} :
    id ∈ typeIds ts ↔ ∃ t ∈ ts, id ∈ nodeIds t := by
  induction ts with
  | nil => simp [typeIds]
  | cons t ts ih => simp [typeIds, ih]

theorem names_referenceExpr {id : Option String} {target : Reference} {inside : Bool}
    (h : (referenceExpr references id).Names target inside) :
    inside = false ∧ ∃ i ∈ id.filter (!·.isEmpty), Reference.find? i references = some target := by
  rw [referenceExpr] at h
  split at h
  · rename_i found hfound
    obtain ⟨i, hi, hfind⟩ := Option.bind_eq_some_iff.1 hfound
    cases h
    exact ⟨rfl, i, hi, hfind⟩
  · cases h

/-- An inline object names nothing outside of itself. -/
theorem exists_id_of_names_object {id : Option String} {fields : Option (List TypeField)}
    {target : Reference} (h : (objectExpr references id fields).Names target false) :
    ∃ i ∈ (id.filter (!·.isEmpty)).toList, Reference.find? i references = some target := by
  match fields, h with
  | none, h | some [], h =>
    obtain ⟨-, i, hi, hfind⟩ := names_referenceExpr h
    exact ⟨i, Option.mem_toList.2 hi, hfind⟩
  | some (f :: fs), h => cases h

theorem exists_id_of_names_elements {types : Option (List TypeNode)} {target : Reference}
    (hall : ∀ ts, types = some ts → ∀ t ∈ ts, (nodeExpr references t).Names target false →
      ∃ i ∈ nodeIds t, Reference.find? i references = some target)
    (h : (elementsExpr references types).Names target false) :
    ∃ i ∈ elementIds types, Reference.find? i references = some target := by
  match types, h with
  | none, h | some [], h => cases h
  | some (t :: ts), h =>
    cases h with
    | element hmem hnames =>
      rw [nodeExprs_eq_map] at hmem
      obtain ⟨u, hu, rfl⟩ := List.mem_map.1 hmem
      obtain ⟨i, hi, hfind⟩ := hall _ rfl u hu hnames
      exact ⟨i, mem_typeIds.2 ⟨u, hu, hi⟩, hfind⟩

/-- The walk comes by the id of every reference that is named outside of inline objects. -/
theorem exists_id_of_names {n : TypeNode} {target : Reference}
    (h : (nodeExpr references n).Names target false) :
    ∃ id ∈ nodeIds n, Reference.find? id references = some target := by
  revert h
  apply TypeNode.induction (Q := fun _ => True)
    (P := fun n => (nodeExpr references n).Names target false →
      ∃ id ∈ nodeIds n, Reference.find? id references = some target)
  · intro n _ htypes h
    obtain ⟨tag, startsWith, possibleValues, fields, id, arrayTypes⟩ := n
    rw [nodeExpr] at h
    rw [nodeIds]
    split at h
    · cases h
    · split at h
      · obtain ⟨i, hi, hfind⟩ := exists_id_of_names_object h
        exact ⟨i, List.mem_append_left _ hi, hfind⟩
      · split at h
        · cases h
        · split at h
          · rename_i htag
            obtain ⟨i, hi, hfind⟩ := exists_id_of_names_elements htypes h
            rw [if_pos htag]
            exact ⟨i, List.mem_append_right _ hi, hfind⟩
          · cases h
  · intro f _
    trivial

end

end ClientScribe.Client
