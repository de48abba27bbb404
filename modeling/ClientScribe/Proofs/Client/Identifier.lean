import ClientScribe.Client.Name
import ClientScribe.Docs.Body
import ClientScribe.Docs.Title

/-!
When names are identifiers.  A name is made by dropping characters, so what it is depends on those
that stay: all of them have to be identifier parts, and the first one has to begin an identifier.
-/

namespace ClientScribe

namespace Client

theorem toNat_lt_of_isIdentifierStart {c : Char} (h : isIdentifierStart c = true) :
    c.toNat < 128 := by
  have hnat : c.toNat = c.val.toNat := rfl
  have halpha : c.isAlpha = (decide ('A'.val ≤ c.val ∧ c.val ≤ 'Z'.val)
      || (decide ('a'.val ≤ c.val) && decide (c.val ≤ 'z'.val))) := rfl
  simp only [isIdentifierStart, halpha, Bool.or_eq_true, Bool.and_eq_true, decide_eq_true_eq,
    UInt32.le_iff_toNat_le] at h
  rcases h with ((⟨-, h⟩ | ⟨-, h⟩) | rfl) | rfl
  · exact Nat.lt_of_le_of_lt h (by decide)
  · exact Nat.lt_of_le_of_lt h (by decide)
  · decide
  · decide

theorem isIdentifierPart_of_isIdentifierStart {c : Char} (h : isIdentifierStart c = true) :
    isIdentifierPart c = true := by
  simp only [isIdentifierStart, Bool.or_eq_true, decide_eq_true_eq] at h
  rw [isIdentifierPart, Bool.or_eq_true, decide_eq_true_eq]
  rcases h with (h | rfl) | h
  · exact .inl (Text.isWord_of_isAlphanum (Bool.or_eq_true_iff.2 (.inl h)))
  · exact .inl (by decide)
  · exact .inr h

theorem isPlainIdentifier_iff {s : List Char} :
    isPlainIdentifier s = true ↔ s ≠ [] ∧ (∀ c ∈ s.head?, isIdentifierStart c = true)
      ∧ ∀ c ∈ s, isIdentifierPart c = true := by
  cases s with
  | nil => simp [isPlainIdentifier]
  | cons c s =>
    have hpart := @isIdentifierPart_of_isIdentifierStart c
    simp only [isPlainIdentifier, Bool.and_eq_true, List.all_eq_true, List.head?_cons,
      Option.mem_some_iff, forall_eq', List.forall_mem_cons, ne_eq, reduceCtorEq,
      not_false_eq_true, true_and]
    exact ⟨fun h => ⟨h.1, hpart h.1, h.2⟩, fun h => ⟨h.1, h.2.2⟩⟩

/-- What is kept of a text is an identifier, if anything is. -/
structure Spells (keep : Char → Bool) (s : List Char) : Prop where
  first : ∀ c ∈ s.find? keep, isIdentifierStart c = true
  all : ∀ c ∈ s, keep c = true → isIdentifierPart c = true

instance (keep : Char → Bool) (s : List Char) : Decidable (Spells keep s) :=
  decidable_of_iff ((s.find? keep).all isIdentifierStart = true
      ∧ s.all (fun c => !keep c || isIdentifierPart c) = true) <| by
    rw [Option.all_eq_true, List.all_eq_true]
    constructor
    · rintro ⟨hfirst, hall⟩
      exact ⟨hfirst, fun c hc hkeep => by simpa [hkeep] using hall c hc⟩
    · rintro ⟨hfirst, hall⟩
      refine ⟨hfirst, fun c hc => ?_⟩
      cases hkeep : keep c with
      | false => rfl
      | true => exact hall c hc hkeep

section

variable {keep : Char → Bool} {s suffix : List Char}

theorem spells_iff : Spells keep s ↔
    s.filter keep = [] ∨ isPlainIdentifier (s.filter keep) = true := by
  rw [isPlainIdentifier_iff, List.head?_filter, List.forall_mem_filter]
  constructor
  · intro h
    by_cases hempty : s.filter keep = []
    · exact .inl hempty
    · exact .inr ⟨hempty, h.first, h.all⟩
  · rintro (hempty | ⟨-, hfirst, hall⟩)
    · have hnone : ∀ c ∈ s, ¬ keep c = true := List.filter_eq_nil_iff.1 hempty
      refine ⟨?_, fun c hc hkeep => absurd hkeep (hnone c hc)⟩
      rw [List.find?_eq_none.2 hnone]
      exact fun c hc => absurd hc (Option.not_mem_none c)
    · exact ⟨hfirst, hall⟩

theorem isPlainIdentifier_filter_iff : isPlainIdentifier (s.filter keep) = true ↔
    Spells keep s ∧ s.filter keep ≠ [] := by
  rw [spells_iff]
  constructor
  · intro h
    exact ⟨.inr h, (isPlainIdentifier_iff.1 h).1⟩
  · rintro ⟨h, hne⟩
    exact h.resolve_left hne

/-- Behind an identifier nothing is needed in front. -/
theorem isPlainIdentifier_filter_append_iff (hsuffix : isPlainIdentifier suffix = true) :
    isPlainIdentifier (s.filter keep ++ suffix) = true ↔ Spells keep s := by
  rw [spells_iff]
  cases hkept : s.filter keep with
  | nil => simp [hsuffix]
  | cons c kept =>
    have hparts : suffix.all isIdentifierPart = true :=
      List.all_eq_true.2 (isPlainIdentifier_iff.1 hsuffix).2.2
    simp [isPlainIdentifier, List.all_append, hparts]

end

/-! ### Names made from titles -/

variable {title : String}

theorem isPlainIdentifier_typeName_iff : isPlainIdentifier (Title.typeName title).toList = true ↔
    Spells (fun c => !Text.isBlank c) (Text.dropMarker "Object".toList title.toList)
    ∧ (Text.dropMarker "Object".toList title.toList).filter (fun c => !Text.isBlank c) ≠ [] := by
  rw [Title.typeName, Title.oneWord, String.toList_ofList, isPlainIdentifier_filter_iff]

theorem isPlainIdentifier_enumName_iff : isPlainIdentifier (Title.enumName title).toList = true ↔
    Spells (fun c => !Text.isBlank c) (Text.dropMarker "Errors".toList title.toList) := by
  rw [Title.enumName, Title.oneWord, String.toList_append, String.toList_ofList,
    isPlainIdentifier_filter_append_iff (by decide)]

theorem isPlainIdentifier_requestName_iff :
    isPlainIdentifier (Title.requestName title).toList = true ↔
      Spells (· ≠ '-') ((Text.words title.toList).flatMap Title.capitalize) := by
  rw [Title.requestName, String.toList_append, String.toList_ofList,
    isPlainIdentifier_filter_append_iff (by decide)]

/-- The first letter of an identifier in lower case begins an identifier. -/
theorem lowerChar_of_isIdentifierStart {c : Char} (h : isIdentifierStart c = true) :
    ∃ d, Text.lowerChar c = [d] ∧ isIdentifierStart d = true := by
  have htable : ∀ n < 128, isIdentifierStart (Char.ofNat n) = true →
      (Text.lowerChar (Char.ofNat n)).length = 1
      ∧ (Text.lowerChar (Char.ofNat n)).all isIdentifierStart = true := by
    decide
  have hc := htable c.toNat (toNat_lt_of_isIdentifierStart h)
  rw [Char.ofNat_toNat] at hc
  obtain ⟨hlength, hstart⟩ := hc h
  obtain ⟨d, hd⟩ := List.length_eq_one_iff.1 hlength
  rw [hd, List.all_cons, Bool.and_eq_true] at hstart
  exact ⟨d, hd, hstart.1⟩

/-- A function is called like its request without the marker, if anything is in front of that. -/
theorem isPlainIdentifier_functionName_iff
    (h : Spells (· ≠ '-') ((Text.words title.toList).flatMap Title.capitalize)) :
    isPlainIdentifier (functionName (Title.requestName title)).toList = true ↔
      ((Text.words title.toList).flatMap Title.capitalize).filter (· ≠ '-') ≠ [] := by
  have hname : Text.dropMarker "Request".toList (Title.requestName title).toList =
      ((Text.words title.toList).flatMap Title.capitalize).filter (· ≠ '-') := by
    rw [Title.requestName, String.toList_append, Text.dropMarker_append, String.toList_ofList]
  rw [functionName, hname]
  rcases spells_iff.1 h with hempty | hplain
  · rw [hempty]
    simp [isPlainIdentifier]
  · obtain ⟨hne, hfirst, hall⟩ := isPlainIdentifier_iff.1 hplain
    obtain ⟨c, cs, hcs⟩ := List.exists_cons_of_ne_nil hne
    rw [hcs] at hfirst hall ⊢
    obtain ⟨d, hd, hstart⟩ := lowerChar_of_isIdentifierStart (hfirst c rfl)
    simp only [hd, String.toList_ofList, List.singleton_append, isPlainIdentifier, hstart,
      Bool.true_and, ne_eq, reduceCtorEq, not_false_eq_true, iff_true]
    exact List.all_eq_true.2 (List.forall_mem_cons.1 hall).2

/-! ### Names in a body -/

/-- The name of an entry is a run of word characters. -/
theorem isWord_of_mem_errors {body : String} {v : EnumValue} (h : v ∈ Body.errors body) :
    v.name.toList ≠ [] ∧ ∀ c ∈ v.name.toList, Text.isWord c = true := by
  obtain ⟨t, rest, hentry⟩ := Text.exists_of_mem_findAll h
  simp only [Body.entryAt?, Option.bind_eq_bind, Option.bind_eq_some_iff] at hentry
  obtain ⟨s, -, ⟨name, behind⟩, hrun, line, -, next, -, hv⟩ := hentry
  obtain ⟨hne, hword, -⟩ := Text.of_run?_eq_some hrun
  cases hv
  rw [String.toList_ofList]
  exact ⟨hne, hword⟩

theorem isPlainIdentifier_iff_of_mem_errors {body : String} {v : EnumValue}
    (h : v ∈ Body.errors body) : isPlainIdentifier v.name.toList = true ↔
      v.name.toList.head?.all isIdentifierStart = true := by
  obtain ⟨hne, hword⟩ := isWord_of_mem_errors h
  rw [isPlainIdentifier_iff, Option.all_eq_true]
  refine ⟨fun h => h.2.1, fun hfirst => ⟨hne, hfirst, fun c hc => ?_⟩⟩
  rw [isIdentifierPart, hword c hc, Bool.true_or]

end Client

end ClientScribe
