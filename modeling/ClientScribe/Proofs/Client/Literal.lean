import ClientScribe.Client.Api
import ClientScribe.Proofs.Client.Identifier
import ClientScribe.Text.Hex

/-!
String literals.  A text between single quotes is written without escapes, so the literal has the
text as its value only where nothing in it would have to be escaped.  An escape is longer than what
it stands for: no other text could be the literal of a text that holds one.
-/

namespace ClientScribe.Client

/-! ### Literals and their values -/

/-- The 16-bit units of a code. -/
def codeUnits (n : Nat) : List Nat :=
  if n < 0x10000 then [n] else [0xD800 + (n - 0x10000) / 0x400, 0xDC00 + (n - 0x10000) % 0x400]

/-- The units of a character; one that stands for half a pair is that half. -/
def charUnits (c : Char) : List Nat := codeUnits ((Text.half? c).getD c.toNat)

/-- The value of a text. -/
def units (s : List Char) : List Nat := s.flatMap charUnits

/-- A character that a literal can hold as it is. -/
def IsUnescaped (c : Char) : Prop := c ∉ ['\'', '\\', '\n', '\r']

instance : DecidablePred IsUnescaped := fun c => inferInstanceAs (Decidable (c ∉ _))

/-- A text that may stand between single quotes as it is. -/
def IsQuotable (s : List Char) : Prop := ∀ c ∈ s, IsUnescaped c

instance : DecidablePred IsQuotable := List.decidableBAll IsUnescaped

/-- The letters and marks that are escaped by one character, with their units. -/
def namedEscapes : List (Char × Nat) :=
  [('\'', 0x27), ('"', 0x22), ('\\', 0x5C), ('b', 8), ('f', 12), ('n', 10), ('r', 13), ('t', 9),
   ('v', 11)]

/-- A backslash in front of one of these joins two lines. -/
def lineBreaks : List Char := ['\n', '\r', '\u2028', '\u2029']

/-- What may follow a backslash without meaning anything else than itself. -/
def IsSelfEscaped (c : Char) : Prop :=
  c ∉ namedEscapes.map Prod.fst ∧ c ∉ lineBreaks ∧ c.isDigit = false ∧ c ≠ 'x' ∧ c ≠ 'u'

/-- The body of a literal in single quotes, as modules of TypeScript write it, and its value. -/
inductive Denotes : List Char → List Nat → Prop
  | nil : Denotes [] []
  | char {c : Char} {s : List Char} {v : List Nat} (hc : IsUnescaped c) (h : Denotes s v) :
    Denotes (c :: s) (charUnits c ++ v)
  | named {c : Char} {n : Nat} {s : List Char} {v : List Nat} (hc : (c, n) ∈ namedEscapes)
    (h : Denotes s v) : Denotes ('\\' :: c :: s) (n :: v)
  | self {c : Char} {s : List Char} {v : List Nat} (hc : IsSelfEscaped c) (h : Denotes s v) :
    Denotes ('\\' :: c :: s) (charUnits c ++ v)
  | zero {s : List Char} {v : List Nat} (hs : ∀ c ∈ s.head?, c.isDigit = false)
    (h : Denotes s v) : Denotes ('\\' :: '0' :: s) (0 :: v)
  | byte {ds s : List Char} {v : List Nat} (hlength : ds.length = 2)
    (hds : ∀ d ∈ ds, Text.isHex d = true) (h : Denotes s v) :
    Denotes ('\\' :: 'x' :: (ds ++ s)) (Text.hexNumber ds :: v)
  | unit {ds s : List Char} {v : List Nat} (hlength : ds.length = 4)
    (hds : ∀ d ∈ ds, Text.isHex d = true) (h : Denotes s v) :
    Denotes ('\\' :: 'u' :: (ds ++ s)) (Text.hexNumber ds :: v)
  | code {ds s : List Char} {v : List Nat} (hne : ds ≠ []) (hds : ∀ d ∈ ds, Text.isHex d = true)
    (hcode : Text.hexNumber ds ≤ 0x10FFFF) (h : Denotes s v) :
    Denotes ('\\' :: 'u' :: '{' :: (ds ++ '}' :: s)) (codeUnits (Text.hexNumber ds) ++ v)
  | joined {c : Char} {s : List Char} {v : List Nat} (hc : c ∈ lineBreaks) (h : Denotes s v) :
    Denotes ('\\' :: c :: s) v
  | joinedPair {s : List Char} {v : List Nat} (h : Denotes s v) :
    Denotes ('\\' :: '\r' :: '\n' :: s) v

/-- A literal that has the text as its value. -/
def IsLiteralOf (value literal : String) : Prop :=
  ∃ body, literal.toList = '\'' :: (body ++ ['\'']) ∧ Denotes body (units value.toList)

/-- A key under which a member of that name is declared: the name itself, if it is a plain
identifier, or a literal of it. -/
def IsKeyOfMember (name key : String) : Prop :=
  isPlainIdentifier name.toList = true ∧ key = name ∨ IsLiteralOf name key

/-- How a member of that name is read from the request. -/
def IsReadOfMember (name text : String) : Prop :=
  isPlainIdentifier name.toList = true ∧ text = "request." ++ name
    ∨ ∃ literal, text = "request[" ++ literal ++ "]" ∧ IsLiteralOf name literal

/-- A text in single quotes. -/
def quoted (text : String) : String := "'" ++ text ++ "'"

/-- A string type that lists its values, and has no beginning that would be written in their
place. -/
structure Lists (n : TypeNode) (values : List String) : Prop where
  tag : n.tag = "string"
  startsWith : n.startsWith.filter (!·.isEmpty) = none
  possibleValues : n.possibleValues = some values
  ne_nil : values ≠ []

/-! ### An escape is longer than its value -/

section

variable {c : Char} {s t : List Char} {v : List Nat} {n : Nat}

theorem length_codeUnits_pos : 0 < (codeUnits n).length := by
  rw [codeUnits]
  split <;> simp

theorem length_codeUnits_le : (codeUnits n).length ≤ 2 := by
  rw [codeUnits]
  split <;> simp

theorem length_charUnits_pos : 0 < (charUnits c).length := length_codeUnits_pos

theorem units_cons : units (c :: s) = charUnits c ++ units s := List.flatMap_cons

theorem units_append : units (s ++ t) = units s ++ units t := List.flatMap_append

theorem length_le_units : s.length ≤ (units s).length := by
  induction s with
  | nil => exact Nat.le_refl 0
  | cons c s ih =>
    have hpos := @length_charUnits_pos c
    rw [units_cons, List.length_append, List.length_cons]
    omega

/-- What is behind an escape does not make up for its length. -/
theorem length_lt_of_escape (front : List Char) (value : List Nat)
    (hlt : value.length < (units front).length) (hle : v.length ≤ (units s).length) :
    (value ++ v).length < (units (front ++ s)).length := by
  rw [units_append, List.length_append, List.length_append]
  exact Nat.add_lt_add_of_lt_of_le hlt hle

/-- A literal that is written without escapes has its own text as its value, and the value of any
other one is shorter than its text. -/
theorem Denotes.plain_or_shorter (h : Denotes s v) :
    IsQuotable s ∧ v = units s ∨ v.length < (units s).length := by
  have hle {s : List Char} {v : List Nat}
      (ih : IsQuotable s ∧ v = units s ∨ v.length < (units s).length) :
      v.length ≤ (units s).length := by
    rcases ih with ⟨-, rfl⟩ | hlt
    · exact Nat.le_refl _
    · exact Nat.le_of_lt hlt
  -- most escapes have fewer units than characters
  have hshort {front : List Char} {value : List Nat} (h : value.length < front.length) :
      value.length < (units front).length := Nat.lt_of_lt_of_le h length_le_units
  induction h with
  | nil => exact .inl ⟨fun c hc => absurd hc List.not_mem_nil, rfl⟩
  | char hc _ ih =>
    rw [units_cons]
    rcases ih with ⟨hs, rfl⟩ | hlt
    · exact .inl ⟨List.forall_mem_cons.2 ⟨hc, hs⟩, rfl⟩
    · rw [List.length_append, List.length_append]
      exact .inr (Nat.add_lt_add_left hlt _)
  | @named c n s v _ _ ih =>
    exact .inr (length_lt_of_escape ['\\', c] [n] (hshort (by simp)) (hle ih))
  | @self c s v _ _ ih =>
    refine .inr (length_lt_of_escape ['\\', c] (charUnits c) ?_ (hle ih))
    have hpos := @length_charUnits_pos '\\'
    rw [units_cons, units_cons, units, List.flatMap_nil, List.append_nil, List.length_append]
    omega
  | @zero s v _ _ ih =>
    exact .inr (length_lt_of_escape ['\\', '0'] [0] (hshort (by simp)) (hle ih))
  | @byte ds s v _ _ _ ih =>
    exact .inr (length_lt_of_escape ('\\' :: 'x' :: ds) [_] (hshort (by simp)) (hle ih))
  | @unit ds s v _ _ _ ih =>
    exact .inr (length_lt_of_escape ('\\' :: 'u' :: ds) [_] (hshort (by simp)) (hle ih))
  | @code ds s v _ _ _ _ ih =>
    have hfront : '\\' :: 'u' :: '{' :: (ds ++ '}' :: s) =
        ('\\' :: 'u' :: '{' :: (ds ++ ['}'])) ++ s := by simp
    have hvalue := @length_codeUnits_le (Text.hexNumber ds)
    rw [hfront]
    refine .inr (length_lt_of_escape _ _ (hshort ?_) (hle ih))
    rw [List.length_cons, List.length_cons, List.length_cons]
    omega
  | @joined c s v _ _ ih =>
    exact .inr (length_lt_of_escape ['\\', c] [] (hshort (by simp)) (hle ih))
  | @joinedPair s v _ ih =>
    exact .inr (length_lt_of_escape ['\\', '\r', '\n'] [] (hshort (by simp)) (hle ih))

theorem denotes_units (h : IsQuotable s) : Denotes s (units s) := by
  induction s with
  | nil => exact .nil
  | cons c s ih =>
    rw [units_cons]
    exact .char (h c List.mem_cons_self) (ih fun d hd => h d (List.mem_cons_of_mem c hd))

/-- A text in quotes denotes itself exactly if nothing in it has to be escaped. -/
theorem denotes_units_iff : Denotes s (units s) ↔ IsQuotable s := by
  refine ⟨fun h => ?_, denotes_units⟩
  rcases h.plain_or_shorter with ⟨hs, -⟩ | hlt
  · exact hs
  · exact absurd hlt (Nat.lt_irrefl _)

end

section

variable {name value : String}

theorem toList_quoted : (quoted value).toList = '\'' :: (value.toList ++ ['\'']) := by
  simp [quoted]

theorem isLiteralOf_quoted_iff : IsLiteralOf value (quoted value) ↔ IsQuotable value.toList := by
  rw [IsLiteralOf, toList_quoted]
  constructor
  · rintro ⟨body, hbody, hdenotes⟩
    obtain rfl := List.append_cancel_right (List.cons.inj hbody).2
    exact denotes_units_iff.1 hdenotes
  · exact fun h => ⟨_, rfl, denotes_units_iff.2 h⟩

/-! ### Names -/

theorem isQuotable_of_isPlainIdentifier {s : List Char} (h : isPlainIdentifier s = true) :
    IsQuotable s := by
  have hmarks : ['\'', '\\', '\n', '\r'].any isIdentifierPart = false := by decide
  intro c hc hmem
  exact List.any_eq_false.1 hmarks c hmem ((isPlainIdentifier_iff.1 h).2.2 c hc)

theorem dropEnd?_lineBreak_eq_some_iff {s t : List Char} :
    Text.dropEnd? ['\n'] s = some t ↔ s = t ++ ['\n'] := by
  constructor
  · intro h
    rw [Text.dropEnd?] at h
    split at h
    · rename_i hsuffix
      obtain ⟨t, rfl⟩ := List.isSuffixOf_iff_suffix.1 hsuffix
      rw [← Option.some.inj h]
      simp
    · exact absurd h (by simp)
  · rintro rfl
    exact Text.dropEnd?_append ['\n'] t

/-- A name goes without quotes if it is a plain identifier, or one with a line break behind it. -/
theorem isIdentifier_eq_true_iff : isIdentifier name = true ↔
    isPlainIdentifier name.toList = true
      ∨ ∃ t, isPlainIdentifier t = true ∧ name.toList = t ++ ['\n'] := by
  rw [isIdentifier, Bool.or_eq_true]
  refine or_congr_right ?_
  simp only [← dropEnd?_lineBreak_eq_some_iff]
  cases Text.dropEnd? ['\n'] name.toList with
  | none => simp
  | some t => simp [and_comm]

theorem property_eq : property name = if isIdentifier name then name else quoted name := rfl

theorem access_eq : access name =
    if isIdentifier name then "request." ++ name else "request[" ++ quoted name ++ "]" := by
  have hbracket : "request['" ++ name ++ "']" = "request[" ++ quoted name ++ "]" := by
    rw [← String.toList_inj]
    simp [quoted]
  rw [← hbracket]
  rfl

theorem quoted_ne (name : String) : quoted name ≠ name := by
  intro heq
  have hlength := congrArg (fun s => s.toList.length) heq
  simp only [toList_quoted, List.length_cons, List.length_append] at hlength
  omega

theorem property_eq_self_iff : property name = name ↔ isIdentifier name = true := by
  rw [property_eq]
  split
  · simp [*]
  · simpa [*] using quoted_ne name

/-- A line break cannot end a literal. -/
theorem not_isLiteralOf_lineBreak {literal : String} {t : List Char}
    (h : literal.toList = t ++ ['\n']) : ¬ IsLiteralOf value literal := by
  rintro ⟨body, hbody, -⟩
  rw [h, ← List.cons_append] at hbody
  exact absurd (List.append_inj_right' hbody rfl) (by decide)

/-- A name is a plain identifier, which has nothing to be escaped; or it stands between quotes; or
it ought to, as a line break ends it, but does not. -/
theorem plain_or_quoted_or_lineBreak (name : String) :
    isPlainIdentifier name.toList = true ∧ isIdentifier name = true ∧ IsQuotable name.toList
    ∨ isPlainIdentifier name.toList ≠ true ∧ (isIdentifier name = false
      ∨ isIdentifier name = true ∧ ¬ IsQuotable name.toList ∧ ∃ t, name.toList = t ++ ['\n']) := by
  by_cases hplain : isPlainIdentifier name.toList = true
  · exact .inl ⟨hplain, isIdentifier_eq_true_iff.2 (.inl hplain),
      isQuotable_of_isPlainIdentifier hplain⟩
  · refine .inr ⟨hplain, ?_⟩
    cases hidentifier : isIdentifier name with
    | false => exact .inl rfl
    | true =>
      obtain ⟨t, -, hname⟩ := (isIdentifier_eq_true_iff.1 hidentifier).resolve_left hplain
      exact .inr ⟨rfl, fun h => h '\n' (by simp [hname]) (by decide), t, hname⟩

/-- The key of a member declares that member exactly if its name is quotable. -/
theorem isKeyOfMember_property_iff :
    IsKeyOfMember name (property name) ↔ IsQuotable name.toList := by
  rw [property_eq]
  rcases plain_or_quoted_or_lineBreak name with
    ⟨hplain, hidentifier, hquotable⟩ | ⟨hplain, hquoted | ⟨hidentifier, hquotable, t, hname⟩⟩
  · rw [if_pos hidentifier]
    exact iff_of_true (.inl ⟨hplain, rfl⟩) hquotable
  · rw [if_neg (by simp [hquoted]), IsKeyOfMember, or_iff_right fun h => hplain h.1]
    exact isLiteralOf_quoted_iff
  · rw [if_pos hidentifier, IsKeyOfMember, or_iff_right fun h => hplain h.1]
    exact iff_of_false (not_isLiteralOf_lineBreak hname) hquotable

theorem toList_bracketed (literal : String) :
    ("request[" ++ literal ++ "]").toList = "request[".toList ++ literal.toList ++ [']'] := by
  rw [String.toList_append, String.toList_append]
  rfl

theorem bracketed_inj {literal literal' : String} :
    "request[" ++ literal ++ "]" = "request[" ++ literal' ++ "]" ↔ literal = literal' := by
  refine ⟨fun h => ?_, fun h => h ▸ rfl⟩
  have hlists := congrArg String.toList h
  rw [toList_bracketed, toList_bracketed] at hlists
  exact String.toList_inj.1 (List.append_cancel_left (List.append_cancel_right hlists))

theorem dotted_ne_bracketed (literal : String) :
    "request." ++ name ≠ "request[" ++ literal ++ "]" := by
  intro h
  have hlists := congrArg String.toList h
  rw [toList_bracketed, String.toList_append, List.append_assoc] at hlists
  have hprefix : "request.".toList <+: "request[".toList ++ (literal.toList ++ [']']) := ⟨_, hlists⟩
  exact absurd (List.prefix_of_prefix_length_le hprefix (List.prefix_append _ _) (by decide))
    (by decide)

/-- What is written to read a member reads it exactly if its name is quotable. -/
theorem isReadOfMember_access_iff :
    IsReadOfMember name (access name) ↔ IsQuotable name.toList := by
  rw [access_eq]
  rcases plain_or_quoted_or_lineBreak name with
    ⟨hplain, hidentifier, hquotable⟩ | ⟨hplain, hquoted | ⟨hidentifier, hquotable, -⟩⟩
  · rw [if_pos hidentifier]
    exact iff_of_true (.inl ⟨hplain, rfl⟩) hquotable
  · rw [if_neg (by simp [hquoted]), IsReadOfMember, or_iff_right fun h => hplain h.1]
    simp only [bracketed_inj, exists_eq_left', isLiteralOf_quoted_iff]
  · rw [if_pos hidentifier, IsReadOfMember, or_iff_right fun h => hplain h.1]
    exact iff_of_false (fun ⟨literal, heq, _⟩ => dotted_ne_bracketed literal heq) hquotable

end

/-! ### Where literals are written -/

section

variable {references : List Reference}

theorem nodeText_of_lists {n : TypeNode} {values : List String} (h : Lists n values) :
    nodeText references n = " | ".intercalate (values.map quoted) := by
  obtain ⟨tag, startsWith, possibleValues, fields, id, arrayTypes⟩ := n
  obtain ⟨htag, hstart, hvalues, hne⟩ := h
  have hnonempty : (some values).filter (!·.isEmpty) = some values :=
    Option.filter_some_pos (by simpa using hne)
  simp only at htag hstart hvalues
  rw [nodeText, if_pos htag, stringText, hstart, hvalues, hnonempty]
  rfl

/-- One member of an enumeration, with its literal. -/
def valueLine (v : EnumValue) : String :=
  commentOf v.description ++ "  " ++ v.name ++ " = " ++ quoted v.name ++ ",\n"

theorem valueText_eq (v : EnumValue) : valueText v = valueLine v := by
  have hopen : " = '" = " = " ++ "'" := rfl
  have hclose : "',\n" = "'" ++ ",\n" := rfl
  rw [valueText, valueLine, quoted, hopen, hclose]
  simp only [String.append_assoc]

theorem declaration_enum {r : Reference} {values : List EnumValue} (h : r.content = .enum values) :
    declaration references r =
      "export enum " ++ r.name ++ " \x7b\n" ++ String.join (values.map valueLine) ++ "\x7d\n" := by
  rw [declaration, h, ← funext valueText_eq]
  rfl

/-- What a call passes behind its path. -/
def argumentsText (r : Request) : String :=
  (if r.query.isEmpty then "" else " + queryParams")
    ++ String.join ((UrlPath.placeholders r.path).map fun name => ", " ++ access name)
    ++ bodyText r.body

theorem callText_eq (r : Request) : callText r =
    "  const response = await client." ++ String.ofList (Text.lower r.method.toList) ++ "("
      ++ quoted (UrlPath.template r.path) ++ argumentsText r ++ ");\n" := by
  have hopen : "('" = "(" ++ "'" := rfl
  unfold callText argumentsText quoted
  rw [hopen]
  simp only [String.append_assoc]

end

/-- A name goes without quotes exactly if it is a plain identifier, or one with a line break behind
it; other names, the values of string types and enumerations and the paths of calls stand between
quotes as they are.  Key, access and literal denote their texts exactly if these hold no quote, no
backslash and no line break. -/
theorem quoted_texts_denote_iff (references : List Reference) :
    (∀ name,
      (property name = name ↔ isPlainIdentifier name.toList = true
        ∨ ∃ t, isPlainIdentifier t = true ∧ name.toList = t ++ ['\n'])
      ∧ (property name = name ∨ property name = quoted name)
      ∧ (IsKeyOfMember name (property name) ↔ IsQuotable name.toList)
      ∧ (IsReadOfMember name (access name) ↔ IsQuotable name.toList))
    ∧ (∀ n values, Lists n values →
      nodeText references n = " | ".intercalate (values.map quoted))
    ∧ (∀ r values, r.content = .enum values →
      declaration references r =
        "export enum " ++ r.name ++ " \x7b\n" ++ String.join (values.map valueLine) ++ "\x7d\n")
    ∧ (∀ r, callText r =
      "  const response = await client." ++ String.ofList (Text.lower r.method.toList) ++ "("
        ++ quoted (UrlPath.template r.path) ++ argumentsText r ++ ");\n")
    ∧ ∀ text, IsLiteralOf text (quoted text) ↔ IsQuotable text.toList := by
  refine ⟨fun name => ⟨?_, ?_, isKeyOfMember_property_iff, isReadOfMember_access_iff⟩,
    fun _ _ => nodeText_of_lists, fun _ _ => declaration_enum, callText_eq,
    fun _ => isLiteralOf_quoted_iff⟩
  · rw [property_eq_self_iff, isIdentifier_eq_true_iff]
  · rw [property_eq]
    split
    · exact .inl rfl
    · exact .inr rfl

/-- A string type with two values, one of which has a blank. -/
def methods : TypeNode := { TypeNode.plain "string" with possibleValues := some ["card", "a b"] }

theorem methods_denote :
    IsKeyOfMember "a b" (property "a b") ∧ IsReadOfMember "a b" (access "a b")
    ∧ Lists methods ["card", "a b"] ∧ nodeText [] methods = "'card' | 'a b'"
    ∧ ∀ value ∈ ["card", "a b"], IsLiteralOf value (quoted value) := by
  obtain ⟨hnames, hlists, -, -, hliteral⟩ := quoted_texts_denote_iff []
  have hmethods : Lists methods ["card", "a b"] := ⟨rfl, rfl, rfl, by simp⟩
  refine ⟨(hnames "a b").2.2.1.2 (by decide), (hnames "a b").2.2.2.2 (by decide), hmethods, ?_, ?_⟩
  · rw [hlists methods _ hmethods]
    decide
  · intro value hvalue
    have hall : ∀ value ∈ ["card", "a b"], IsQuotable value.toList := by decide
    exact (hliteral value).2 (hall value hvalue)

/-- A quote is not escaped, and a line break at the end of a name is not quoted. -/
theorem apostrophe_unescaped :
    property "it's" = "'it's'" ∧ ¬ IsKeyOfMember "it's" (property "it's")
    ∧ access "it's" = "request['it's']" ∧ ¬ IsReadOfMember "it's" (access "it's")
    ∧ property "a\n" = "a\n" ∧ ¬ IsKeyOfMember "a\n" (property "a\n") := by
  refine ⟨by decide, ?_, by decide, ?_, by decide, ?_⟩
  · rw [isKeyOfMember_property_iff]
    decide
  · rw [isReadOfMember_access_iff]
    decide
  · rw [isKeyOfMember_property_iff]
    decide

end ClientScribe.Client
