import ClientScribe.Proofs.Json.Grammar
import ClientScribe.Yaml.Document

/-!
Texts that are one value in both notations of configuration files.  Most JSON texts are among them.
There are no tabs, a key and its colon are in one line and close to each other, numbers with an
exponent have a point and the sign of the exponent, strings hold no characters that a document may
not hold and no second line, and there is no escape for the two halves of a pair.  As everywhere,
values are told by how deep they are nested.
-/

namespace ClientScribe.Common

open Json (Spelling IsDigits IsUnit StartsLow Members letters numberOf numeral)
open Text (unifyLineEnds)

/-- What may stand between the parts of a value. -/
def isGap (c : Char) : Bool := c = ' ' || c = '\n' || c = '\r'

theorem of_isGap {c : Char} (h : isGap c = true) : c = ' ' ∨ c = '\n' ∨ c = '\r' := by
  simpa [isGap, or_assoc] using h

def IsGap (g : List Char) : Prop := ∀ c ∈ g, isGap c = true

/-! ### Strings -/

/-- Whether a character may stand for itself in a string. -/
def isPlain (c : Char) : Bool :=
  Yaml.isAllowed c && !Yaml.isBreak c && 0x20 ≤ c.toNat && c ≠ '"' && c ≠ '\\'

/-- What stands between the quotes of a string, and the characters of the string. -/
inductive Spells : List Char → List Char → Prop
  | nil : Spells [] []
  | plain {c : Char} {s t : List Char} (h : isPlain c = true) (rest : Spells s t) :
    Spells (c :: s) (c :: t)
  | letter {l c : Char} {s t : List Char} (h : (l, c) ∈ letters) (rest : Spells s t) :
    Spells ('\\' :: l :: s) (c :: t)
  | unit {e : List Char} {c : Char} {s t : List Char} (h : IsUnit e c.toNat) (rest : Spells s t) :
    Spells (e ++ s) (c :: t)
  /-- Half a pair stands for itself where it is not completed. -/
  | half {e : List Char} {n : Nat} {s t : List Char} (h : IsUnit e n)
    (surrogate : Text.isHighSurrogate n = true ∨ Text.isLowSurrogate n = true)
    (alone : Text.isHighSurrogate n = true → ¬ StartsLow s) (rest : Spells s t) :
    Spells (e ++ s) (Text.ofCode n :: t)

/-- The texts of strings. -/
def string : Spelling := fun s v =>
  ∃ inner t, s = '"' :: (inner ++ ['"']) ∧ v = .str t ∧ Spells inner t.toList

/-- A string of characters that stand for themselves. -/
theorem string_plain {s : List Char} (hs : s.all isPlain = true) :
    string ('"' :: (s ++ ['"'])) (.str (String.ofList s)) := by
  refine ⟨s, _, rfl, rfl, ?_⟩
  rw [String.toList_ofList]
  induction s with
  | nil => exact .nil
  | cons c s ih =>
    rw [List.all_cons, Bool.and_eq_true] at hs
    exact .plain hs.1 (ih hs.2)

/-! ### Numbers and names -/

/-- The texts of an exponent, which shows its sign. -/
inductive SpellsExponent : List Char → Option Int → Prop
  | absent : SpellsExponent [] none
  | plus {mark : Char} {ds : List Char} (hmark : mark = 'e' ∨ mark = 'E') (hds : IsDigits ds) :
    SpellsExponent (mark :: '+' :: ds) (some (numeral ds))
  | minus {mark : Char} {ds : List Char} (hmark : mark = 'e' ∨ mark = 'E') (hds : IsDigits ds) :
    SpellsExponent (mark :: '-' :: ds) (some (-numeral ds))

/-- The texts of numbers without their signs.  Only a fraction may have an exponent. -/
inductive SpellsUnsigned (negative : Bool) : Spelling
  | whole {ds : List Char} (hds : IsDigits ds) (hzero : ds.head? = some '0' → ds = ['0'])
    (hlong : ds.length ≤ Text.maxDigits) :
    SpellsUnsigned negative ds (numberOf negative ds [] none)
  | fraction {ds fs x : List Char} {e : Option Int} (hds : IsDigits ds)
    (hzero : ds.head? = some '0' → ds = ['0']) (hfs : IsDigits fs) (hx : SpellsExponent x e) :
    SpellsUnsigned negative (ds ++ '.' :: (fs ++ x)) (numberOf negative ds fs e)

/-- The texts of numbers. -/
inductive number : Spelling
  | positive {s : List Char} {v : Json} (h : SpellsUnsigned false s v) : number s v
  | negative {s : List Char} {v : Json} (h : SpellsUnsigned true s v) : number ('-' :: s) v

/-- The names of values. -/
def names : List (List Char × Json) :=
  [("null".toList, .null), ("true".toList, .bool true), ("false".toList, .bool false)]

/-- The texts of values that hold no others. -/
inductive scalar : Spelling
  | name {s : List Char} {v : Json} (h : (s, v) ∈ names) : scalar s v
  | number {s : List Char} {v : Json} (h : number s v) : scalar s v
  | string {s : List Char} {v : Json} (h : string s v) : scalar s v

/-! ### Arrays, objects, and values of any depth -/

section

variable {α : Type} (P : List Char → α → Prop) (V : Spelling)

/-- Parts that are spelled as `P` says, with commas between them. -/
inductive Parts : List Char → List α → Prop
  | last {s g : List Char} {a : α} (part : P s a) (gap : IsGap g) : Parts (s ++ g) [a]
  | more {s g g' s' : List Char} {a : α} {as : List α} (part : P s a) (gap : IsGap g)
    (gap' : IsGap g') (others : Parts s' as) : Parts (s ++ (g ++ ',' :: (g' ++ s'))) (a :: as)

/-- Parts between brackets. -/
inductive Bracketed (opening closing : Char) : List Char → List α → Prop
  | empty {g : List Char} (gap : IsGap g) :
    Bracketed opening closing (opening :: (g ++ [closing])) []
  | parts {g s : List Char} {as : List α} (gap : IsGap g) (h : Parts P s as) :
    Bracketed opening closing (opening :: (g ++ (s ++ [closing]))) as

/-- The texts of arrays whose items are spelled as `V` says. -/
inductive array : Spelling
  | mk {s : List Char} {vs : List Json} (h : Bracketed V '[' ']' s vs) : array s (.arr vs)

/-- The texts of a member.  The colon is in the line of the key, not too far behind its start. -/
inductive SpellsMember : List Char → String × Json → Prop
  | mk {k g g' s : List Char} {name : String} {v : Json} (key : string k (.str name))
    (blanks : ∀ c ∈ g, c = ' ') (near : k.length + g.length ≤ Yaml.Candidate.reach)
    (gap : IsGap g') (value : V s v) : SpellsMember (k ++ (g ++ ':' :: (g' ++ s))) (name, v)

/-- The texts of objects.  Of members with one key the last value counts, at the place of the
first. -/
inductive object : Spelling
  | mk {s : List Char} {ms : Members} (h : Bracketed (SpellsMember V) '{' '}' s ms) :
    object s (.obj (Json.override [] ms))

/-- The texts that hold nothing but a value. -/
inductive alone : Spelling
  | mk {g s g' : List Char} {v : Json} (gap : IsGap g) (value : V s v) (gap' : IsGap g') :
    alone (g ++ (s ++ g')) v

end

/-- The texts of values with no more than `depth` values inside each other. -/
def value : (depth : Nat) → Spelling
  | 0 => fun _ _ => False
  | depth + 1 => fun s v => scalar s v ∨ array (value depth) s v ∨ object (value depth) s v

/-- Whether a value may hold others. -/
def isCompound : Json → Bool
  | .arr _ | .obj _ => true
  | _ => false

theorem isCompound_numberOf (negative : Bool) (ds fs : List Char) (e : Option Int) :
    isCompound (numberOf negative ds fs e) = false := by
  rcases e with _ | e
  · rcases fs with _ | ⟨f, fs⟩ <;> rfl
  · rfl

theorem isCompound_of_scalar {s : List Char} {v : Json} (h : scalar s v) :
    isCompound v = false := by
  have hunsigned {negative : Bool} {s : List Char} {v : Json} (h : SpellsUnsigned negative s v) :
      isCompound v = false := by
    cases h <;> exact isCompound_numberOf ..
  cases h with
  | name h =>
    have hall : ∀ v ∈ names.map Prod.snd, isCompound v = false := by
      simp only [names, List.map_cons, List.forall_mem_cons]
      exact ⟨rfl, rfl, rfl, List.forall_mem_nil _⟩
    exact hall v (List.mem_map_of_mem h)
  | number h =>
    cases h with
    | positive h => exact hunsigned h
    | negative h => exact hunsigned h
  | string h =>
    obtain ⟨-, t, -, rfl, -⟩ := h
    rfl

/-! ### Texts of the other notation -/

theorem IsGap.json {g : List Char} (h : IsGap g) : Json.IsGap g := by
  intro c hc
  rcases of_isGap (h c hc) with rfl | rfl | rfl <;> rfl

theorem isGap_of_spaces {g : List Char} (h : ∀ c ∈ g, c = ' ') : IsGap g := by
  intro c hc
  rw [h c hc]
  rfl

theorem of_isPlain {c : Char} (h : isPlain c = true) : Yaml.isAllowed c = true
    ∧ Yaml.isBreak c = false ∧ 0x20 ≤ c.toNat ∧ c ≠ '"' ∧ c ≠ '\\' := by
  simpa [isPlain, and_assoc] using h

theorem Spells.json {s t : List Char} (h : Spells s t) : Json.Spells s t := by
  induction h with
  | nil => exact .nil
  | plain hc _ ih =>
    obtain ⟨-, -, hcontrol, hquote, hbackslash⟩ := of_isPlain hc
    exact .plain hquote hbackslash hcontrol ih
  | letter hl _ ih => exact .letter hl ih
  | unit he _ ih => exact .unit he ih
  | half he hsurrogate halone _ ih => exact .half he hsurrogate halone ih

theorem string_json {s : List Char} {v : Json} (h : string s v) : Spelling.string s v := by
  obtain ⟨inner, t, hs, hv, hspells⟩ := h
  exact ⟨inner, t, hs, hv, hspells.json⟩

theorem SpellsExponent.json {x : List Char} {e : Option Int} (h : SpellsExponent x e) :
    Json.SpellsExponent x e := by
  cases h with
  | absent => exact .absent
  | @plus _ ds hmark hds =>
    rw [← Int.one_mul (numeral ds)]
    exact .digits hmark .plus hds
  | @minus _ ds hmark hds =>
    rw [Int.neg_eq_neg_one_mul]
    exact .digits hmark .minus hds

theorem SpellsUnsigned.json {negative : Bool} {s : List Char} {v : Json}
    (h : SpellsUnsigned negative s v) : Json.SpellsUnsigned negative s v := by
  cases h with
  | whole hds hzero hlong =>
    have hwhole : Json.SpellsUnsigned negative (s ++ ([] ++ [])) (numberOf negative s [] none) :=
      .mk hds hzero .absent .absent fun _ _ => hlong
    rwa [List.append_nil, List.append_nil] at hwhole
  | fraction hds hzero hfs hx =>
    exact .mk hds hzero (.digits hfs) hx.json fun hnil => absurd hnil hfs.1

theorem scalar_json {s : List Char} {v : Json} (h : scalar s v) : Spelling.scalar s v := by
  cases h with
  | name h =>
    refine .name ?_
    rw [show Json.names = names ++ Json.names.drop 3 from rfl]
    exact List.mem_append_left _ h
  | number h =>
    cases h with
    | positive h => exact .number (.positive h.json)
    | negative h => exact .number (.negative h.json)
  | string h => exact .string (string_json h)

section

variable {V : Spelling} {s : List Char}

theorem items_json {vs : List Json} (h : Parts V s vs) : Json.SpellsItems V s vs := by
  induction h with
  | last hitem hgap => exact .last hitem hgap.json
  | more hitem hgap hgap' _ ih => exact .more hitem hgap.json hgap'.json ih

theorem array_json {v : Json} (h : array V s v) : Spelling.array V s v := by
  obtain ⟨⟨hgap⟩ | ⟨hgap, h⟩⟩ := h
  · exact .empty hgap.json
  · exact .items hgap.json (items_json h)

theorem SpellsMember.json {m : String × Json} (h : SpellsMember V s m) :
    Json.SpellsMember V s m := by
  cases h with
  | mk hkey hblanks _ hgap hvalue =>
    exact ⟨_, _, _, _, rfl, string_json hkey, (isGap_of_spaces hblanks).json, hgap.json, hvalue⟩

theorem members_json {ms : Members} (h : Parts (SpellsMember V) s ms) :
    Json.SpellsMembers V s ms := by
  induction h with
  | last hmember hgap => exact .last hmember.json hgap.json
  | more hmember hgap hgap' _ ih => exact .more hmember.json hgap.json hgap'.json ih

theorem alone_json {v : Json} (h : alone V s v) : Spelling.alone V s v := by
  cases h with
  | mk hgap hvalue hgap' => exact ⟨_, _, _, rfl, hgap.json, hgap'.json, hvalue⟩

/-- An object is read, one level further in than its values. -/
theorem object_isReadBy {depth : Nat} (hV : V.IsReadBy (Json.value false depth)) :
    (object V).IsReadBy (Json.value false (depth + 1)) where
  head := by rintro s v ⟨_ | _⟩ <;> exact ⟨'{', _, rfl, by decide, by decide, by decide⟩
  read := by
    rintro s v ⟨⟨hgap⟩ | ⟨hgap, h⟩⟩ rest -
    · simp only [List.cons_append, List.append_assoc, List.nil_append]
      rw [Json.value, Json.skipGap_append hgap.json, Json.skipGap_cons (by decide)]
      rfl
    · rename_i ms g s
      have hjson := members_json h
      have hlength : ms.length ≤ (s ++ '}' :: rest).length + 1 := by
        have := hjson.length_le
        simp only [List.length_append]
        omega
      simp only [List.cons_append, List.append_assoc, List.nil_append]
      rw [Json.value, Json.skipGap_append hgap.json, hjson.skipGap_append]
      split
      · obtain ⟨t, rfl⟩ := hjson.head
        rename_i hbrace
        exact absurd (List.cons.inj hbrace).1 (by decide)
      · rw [Json.members_spelled hV hjson rest [] hlength]
        rfl

end

/-- Values are read by a reader that follows them to their depth. -/
theorem value_isReadBy {depth n : Nat} (h : depth ≤ n) :
    (value depth).IsReadBy (Json.value false n) := by
  induction depth generalizing n with
  | zero => exact ⟨fun h => h.elim, fun h => h.elim⟩
  | succ depth ih =>
    obtain ⟨n, rfl⟩ := Nat.exists_eq_add_of_le' h
    have hV := ih (n := n + depth) (Nat.le_add_left _ _)
    have hscalar := Spelling.scalar_isReadBy (n + depth + 1)
    have harray := Spelling.array_isReadBy hV
    have hobject := object_isReadBy hV
    constructor
    · rintro s v (h | h | h)
      · exact hscalar.head (scalar_json h)
      · exact harray.head (array_json h)
      · exact hobject.head h
    · rintro s v (h | h | h) rest hrest
      · exact hscalar.read (scalar_json h) hrest
      · exact harray.read (array_json h) hrest
      · exact hobject.read h hrest

/-- A common text is a JSON text of its value. -/
theorem readWith_alone [Interpreter] {s : List Char} {v : Json}
    (h : alone (value Interpreter.documentDepth) s v) :
    Json.readWith false Interpreter.jsonDepth s = .ok v :=
  Json.readWith_alone (value_isReadBy Interpreter.documentDepth_le) (alone_json h)

end ClientScribe.Common
