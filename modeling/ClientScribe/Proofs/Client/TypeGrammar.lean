import ClientScribe.Client.TypeText
import ClientScribe.Proofs.Inference.Clue
import ClientScribe.Proofs.Inference.Refine

/-!
The grammar of inferred types.  Whatever a token and a description say, the types inferred from them
are written as alternatives of a small grammar, one for each type and in their order, and of the
description the text holds only the clues.
-/

namespace ClientScribe.Client

/-! ### The grammar -/

/-- A text that may stand between quotes of any sort. -/
def IsLiteral (text : String) : Prop :=
  ∀ c ∈ text.toList, c ∉ ['\'', '"', '\x60', '\\', '\n']

/-- A name as the key of a member: an identifier as it is, another name between quotes. -/
inductive IsKeyOf (name : String) : String → Prop
  | identifier (h : isPlainIdentifier name.toList = true) : IsKeyOf name name
  | quoted (h : IsLiteral name) : IsKeyOf name ("'" ++ name ++ "'")

/-- One alternative of a written type. -/
inductive IsAlternative (references : List Reference) : String → Prop
  | keyword {word : String}
    (h : word ∈ ["string", "number", "boolean", "object", "unknown", "any[]"]) :
    IsAlternative references word
  | literals {values : List String} (hne : values ≠ []) (h : ∀ v ∈ values, IsLiteral v) :
    IsAlternative references (" | ".intercalate (values.map fun v => "'" ++ v ++ "'"))
  | template {word : String} (h : ∀ c ∈ word.toList, Text.isWord c = true) :
    IsAlternative references ("`" ++ word ++ "$\x7bstring\x7d`")
  | named {target : Reference} (h : target ∈ references) :
    IsAlternative references ("Partial<" ++ target.name ++ ">")
  | array {texts : List String} (hne : texts ≠ []) (h : ∀ t ∈ texts, IsAlternative references t) :
    IsAlternative references ("(" ++ " | ".intercalate texts ++ ")[]")
  | inline {keys : List String} (hne : keys ≠ []) (h : ∀ k ∈ keys, ∃ name, IsKeyOf name k) :
    IsAlternative references
      ("\x7b " ++ "; ".intercalate (keys.map fun k => k ++ ": unknown") ++ " \x7d")

/-- A written type: alternatives with bars between them. -/
def IsType (references : List Reference) (text : String) : Prop :=
  ∃ texts : List String, texts ≠ [] ∧ (∀ t ∈ texts, IsAlternative references t)
    ∧ text = " | ".intercalate texts

/-- The alternative that stands for a type.  What it quotes or names is a clue of the description,
and the elements of an array stand in one pair of parentheses, one alternative for each. -/
inductive Renders (references : List Reference) (description : String) : TypeNode → String → Prop
  | string {n : TypeNode} (htag : n.tag = "string") (hstart : n.startsWith = none)
    (hvalues : n.possibleValues = none) : Renders references description n "string"
  | template {n : TypeNode} {word : String} (htag : n.tag = "string")
    (hstart : n.startsWith = some word)
    (hclue : Clue.beginning? description.toList = some word.toList)
    (hword : ∀ c ∈ word.toList, Text.isWord c = true) :
    Renders references description n ("`" ++ word ++ "$\x7bstring\x7d`")
  | literals {n : TypeNode} {values : List String} (htag : n.tag = "string")
    (hstart : n.startsWith = none) (hvalues : n.possibleValues = some values) (hne : values ≠ [])
    (hclue : Clue.values description.toList = values.map String.toList)
    (hliteral : ∀ v ∈ values, IsLiteral v) :
    Renders references description n (" | ".intercalate (values.map fun v => "'" ++ v ++ "'"))
  | object {n : TypeNode} (htag : n.tag = "object") (hfields : n.fields = none)
    (hid : ∀ id, n.id = some id → Reference.find? id references = none) :
    Renders references description n "object"
  | named {n : TypeNode} {id : String} {target : Reference} (htag : n.tag = "object")
    (hfields : n.fields = none) (hid : n.id = some id)
    (hclue : Clue.link? description.toList = some id.toList)
    (hfind : Reference.find? id references = some target) :
    Renders references description n ("Partial<" ++ target.name ++ ">")
  | inline {n : TypeNode} {names : List String} {key : String → String} (htag : n.tag = "object")
    (hfields : n.fields = some (names.map fun name => TypeField.named name.toList))
    (hne : names ≠ [])
    (hclue : Clue.fieldNames description.toList = names.map String.toList)
    (hkey : ∀ name ∈ names, IsKeyOf name (key name)) :
    Renders references description n
      ("\x7b " ++ "; ".intercalate ((names.map key).map fun k => k ++ ": unknown") ++ " \x7d")
  | scalar {n : TypeNode} (htag : n.tag = "number" ∨ n.tag = "boolean") :
    Renders references description n n.tag
  | anyArray {n : TypeNode} (htag : n.tag = "array") (harray : n.arrayTypes = none) :
    Renders references description n "any[]"
  | array {n : TypeNode} {ts : List TypeNode} {text : TypeNode → String} (htag : n.tag = "array")
    (harray : n.arrayTypes = some ts) (hne : ts ≠ [])
    (h : ∀ t ∈ ts, Renders references description t (text t)) :
    Renders references description n ("(" ++ " | ".intercalate (ts.map text) ++ ")[]")
  | unknown {n : TypeNode} (htag : n.tag ∉ ["string", "object", "number", "boolean", "array"]) :
    Renders references description n "unknown"

section

variable {references : List Reference} {description : String}

/-- What stands for a type is an alternative of the grammar. -/
theorem Renders.isAlternative {n : TypeNode} {text : String}
    (h : Renders references description n text) : IsAlternative references text := by
  induction h with
  | string | object | anyArray | unknown => exact .keyword (by simp)
  | scalar htag => rcases htag with htag | htag <;> rw [htag] <;> exact .keyword (by simp)
  | template _ _ _ hword => exact .template hword
  | literals _ _ _ hne _ hliteral => exact .literals hne hliteral
  | named _ _ _ _ hfind => exact .named (List.mem_of_find?_eq_some hfind)
  | @inline _ names key _ _ hne _ hkey =>
    exact .inline (by simpa using hne)
      (List.forall_mem_map.2 fun name hname => ⟨name, hkey name hname⟩)
  | array _ _ hne _ ih => exact .array (by simpa using hne) (List.forall_mem_map.2 ih)

/-! ### What bullets hold -/

theorem isLiteral_of_isBulletChar {text : String} (h : ∀ c ∈ text.toList, Clue.IsBulletChar c) :
    IsLiteral text := by
  intro c hc
  obtain ⟨hclass, hline⟩ := h c hc
  have hmarks : ['\'', '"', '\x60', '\\'].any Clue.isWordOrBlank = false := by decide
  intro hmem
  have hsplit : c ∈ ['\'', '"', '\x60', '\\'] ++ ['\n'] := hmem
  rcases List.mem_append.1 hsplit with hmark | hbreak
  · exact absurd hclass (List.any_eq_false.1 hmarks c hmark)
  · exact hline (List.mem_singleton.1 hbreak)

/-- A name without line breaks is written as its key. -/
theorem isKeyOf_property {name : String} (h : IsLiteral name) : IsKeyOf name (property name) := by
  have hline : Text.dropEnd? ['\n'] name.toList = none := by
    rw [Text.dropEnd?, if_neg]
    intro hsuffix
    have hmem : '\n' ∈ name.toList :=
      (List.isSuffixOf_iff_suffix.1 hsuffix).mem List.mem_cons_self
    exact h '\n' hmem (by decide)
  have hplain : isIdentifier name = isPlainIdentifier name.toList := by
    rw [isIdentifier, hline, Option.map_none, Option.getD_none, Bool.or_false]
  rw [property, hplain]
  split
  · exact .identifier ‹_›
  · exact .quoted h

/-! ### Rendering -/

theorem renders_stringText {n : TypeNode} (h : n.IsRefined description) (htag : n.tag = "string") :
    Renders references description n (stringText n.startsWith n.possibleValues) := by
  rw [stringText]
  cases hstart : n.startsWith with
  | some word =>
    have hclue := h.startsWith word hstart
    obtain ⟨hne, hword⟩ := Clue.of_beginning?_eq_some hclue
    have hnonempty : word ≠ "" := fun hempty => hne (by rw [hempty]; rfl)
    rw [Option.filter_some_pos (by simpa using hnonempty)]
    exact .template htag hstart hclue hword
  | none =>
    cases hvalues : n.possibleValues with
    | some values =>
      obtain ⟨hne, hclue⟩ := h.possibleValues values hvalues
      rw [Option.filter_none, Option.filter_some_pos (by simpa using hne)]
      refine .literals htag hstart hvalues hne hclue ?_
      intro v hv
      apply isLiteral_of_isBulletChar
      exact Clue.isBulletChar_of_mem (.inl (hclue ▸ List.mem_map_of_mem hv))
    | none => exact .string htag hstart hvalues

theorem renders_referenceText {n : TypeNode} (h : n.IsRefined description)
    (htag : n.tag = "object") (hfields : n.fields = none) :
    Renders references description n (referenceText references n.id) := by
  rw [referenceText]
  cases hid : n.id with
  | none => exact .object htag hfields (by simp [hid])
  | some id =>
    have hclue := h.id id hid
    have hnonempty : id ≠ "" := fun hempty =>
      Clue.ne_nil_of_link?_eq_some hclue (by rw [hempty]; rfl)
    rw [Option.filter_some_pos (by simpa using hnonempty), Option.bind_some]
    cases hfind : Reference.find? id references with
    | none =>
      refine .object htag hfields ?_
      intro i hi
      rwa [← Option.some.inj (hid.symm.trans hi)]
    | some target => exact .named htag hfields hid hclue hfind

/-- Fields that are named in prose have no known type. -/
theorem objectText_named {id : Option String} {names : List String} (hne : names ≠ []) :
    objectText references id (some (names.map fun name => TypeField.named name.toList)) =
      "\x7b " ++ "; ".intercalate ((names.map property).map fun k => k ++ ": unknown")
        ++ " \x7d" := by
  have hunknown : typeText references [.plain "unknown"] = "unknown" := rfl
  have hmembers :
      memberTexts references (names.map fun name => TypeField.named name.toList) =
        (names.map property).map fun k => k ++ ": unknown" := by
    rw [memberTexts_eq_map]
    simp [TypeField.named, hunknown, Function.comp_def, String.append_assoc]
  obtain ⟨name, others, rfl⟩ := List.exists_cons_of_ne_nil hne
  rw [← hmembers]
  rfl

theorem renders_objectText {n : TypeNode} (h : n.IsRefined description) (htag : n.tag = "object") :
    Renders references description n (objectText references n.id n.fields) := by
  cases hfields : n.fields with
  | none => exact renders_referenceText h htag hfields
  | some fields =>
    obtain ⟨names, hne, hclue, rfl⟩ := h.fields fields hfields
    rw [objectText_named hne]
    refine .inline htag hfields hne hclue ?_
    intro name hname
    apply isKeyOf_property
    apply isLiteral_of_isBulletChar
    exact Clue.isBulletChar_of_mem (.inr (hclue ▸ List.mem_map_of_mem hname))

theorem renders_nodeText_of_isLeaf {n : TypeNode} (h : n.IsLeaf description) :
    Renders references description n (nodeText references n) := by
  obtain ⟨hrefined, harray⟩ := h
  obtain ⟨tag, startsWith, possibleValues, fields, id, arrayTypes⟩ := n
  rw [nodeText]
  split
  · exact renders_stringText hrefined ‹_›
  · split
    · exact renders_objectText hrefined ‹_›
    · split
      · rename_i htag
        exact .scalar (by simpa using htag)
      · split
        · have harray : arrayTypes = none := harray
          rw [harray]
          exact .anyArray ‹_› rfl
        · rename_i hstring hobject hscalar hother
          refine .unknown ?_
          simp only [Bool.or_eq_true, decide_eq_true_eq, not_or] at hscalar
          simp [hstring, hobject, hscalar, hother]

/-- An inferred type is written as the alternative that stands for it. -/
theorem renders_nodeText {n : TypeNode} (h : n.Inferred description) :
    Renders references description n (nodeText references n) := by
  cases h with
  | leaf hleaf => exact renders_nodeText_of_isLeaf hleaf
  | @array ts hts =>
    have htext : nodeText references (.arrayOf ts) =
        "(" ++ " | ".intercalate (ts.map (nodeText references)) ++ ")[]" := by
      obtain ⟨t, others, rfl⟩ := List.exists_cons_of_ne_nil hts.1
      rw [TypeNode.arrayOf, TypeNode.plain, nodeText, ← nodeTexts_eq_map]
      rfl
    rw [htext]
    exact .array rfl rfl hts.1 fun t ht => renders_nodeText_of_isLeaf (hts.2 t ht)

end

/-- Whatever token and description say, the inferred types are written in the grammar: there is one,
the alternatives stand for the types one by one, and what they quote are clues. -/
theorem inferred_types_derivable (references : List Reference) (token description : String) :
    IsType references (typeText references (TypeNode.infer token description))
    ∧ TypeNode.infer token description ≠ []
    ∧ typeText references (TypeNode.infer token description) =
      " | ".intercalate ((TypeNode.infer token description).map (nodeText references))
    ∧ ∀ t ∈ TypeNode.infer token description,
      Renders references description t (nodeText references t) := by
  obtain ⟨hne, hinferred⟩ := TypeNode.allHave_infer token description
  have htext : typeText references (TypeNode.infer token description) =
      " | ".intercalate ((TypeNode.infer token description).map (nodeText references)) := by
    rw [typeText, nodeTexts_eq_map]
  have hrenders : ∀ t ∈ TypeNode.infer token description,
      Renders references description t (nodeText references t) :=
    fun t ht => renders_nodeText (hinferred t ht)
  refine ⟨⟨_, by simpa using hne, ?_, htext⟩, hne, htext, hrenders⟩
  exact List.forall_mem_map.2 fun t ht => (hrenders t ht).isAlternative

example : typeText [] (TypeNode.infer "array of strings"
    "One of the following:\n* **a b**\n- **c**") = "('a b' | 'c')[]" := by
  decide

end ClientScribe.Client
