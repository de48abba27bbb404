import ClientScribe.Proofs.Client.RequestFunction

/-!
Path arguments.  A url is read from left to right as placeholders, in either notation, and single
characters between them.  Its path writes all placeholders in braces and is read as the same, so the
call that is made from the path has its arguments in the order of the url.
-/

namespace ClientScribe

namespace UrlPath

open Text (isWord)

/-- A name of a placeholder. -/
def IsName (name : List Char) : Prop := name ≠ [] ∧ ∀ c ∈ name, isWord c = true

/-- A placeholder with its name: behind a colon as far as it goes, or in braces. -/
inductive IsMark : List Char → List Char → List Char → Prop
  | colon {name rest : List Char} (hname : IsName name)
      (hend : ∀ c ∈ rest.head?, isWord c = false) : IsMark (':' :: (name ++ rest)) name rest
  | braces {name rest : List Char} (hname : IsName name) :
    IsMark ('{' :: (name ++ '}' :: rest)) name rest

/-- A text as placeholders and the characters between them. -/
inductive Reads : List Char → List (Char ⊕ List Char) → Prop
  | nil : Reads [] []
  | mark {s name rest : List Char} {parts : List (Char ⊕ List Char)} (hmark : IsMark s name rest)
    (hrest : Reads rest parts) : Reads s (.inr name :: parts)
  | char {c : Char} {rest : List Char} {parts : List (Char ⊕ List Char)}
    (hnone : ∀ name behind, ¬ IsMark (c :: rest) name behind) (hrest : Reads rest parts) :
    Reads (c :: rest) (.inl c :: parts)

/-- The names of the placeholders, from left to right. -/
def names (parts : List (Char ⊕ List Char)) : List (List Char) :=
  parts.filterMap Sum.getRight?

/-- The text with its placeholders written otherwise. -/
def written (mark : List Char → List Char) (parts : List (Char ⊕ List Char)) : List Char :=
  parts.flatMap (Sum.elim (fun c => [c]) mark)

/-- A name in braces. -/
def braced (name : List Char) : List Char := '{' :: name ++ ['}']

/-! ### Placeholders as they are searched -/

theorem isWord_close : isWord '}' = false := by decide

theorem isWord_open : isWord '{' = false := by decide

theorem isWord_colon : isWord ':' = false := by decide

theorem IsName.ne {name : List Char} (h : IsName name) {c d : Char} (hc : c ∈ name)
    (hd : isWord d = false) : c ≠ d := by
  rintro rfl
  exact absurd (h.2 c hc) (by simp [hd])

theorem colonName?_eq_some_iff {s name rest : List Char} :
    colonName? s = some (name, rest) ↔
      IsName name ∧ (∀ c ∈ rest.head?, isWord c = false) ∧ s = ':' :: (name ++ rest) := by
  unfold colonName?
  split
  · rw [Text.run?_eq_some_iff, IsName, and_assoc]
    simp
  · rename_i hcolon
    simp only [reduceCtorEq, false_iff, not_and]
    rintro - - rfl
    exact absurd rfl (hcolon _)

theorem bracedName?_eq_some_iff {s name rest : List Char} :
    bracedName? s = some (name, rest) ↔ IsName name ∧ s = '{' :: (name ++ '}' :: rest) := by
  constructor
  · intro h
    unfold bracedName? at h
    split at h
    · split at h
      · rename_i hrun
        obtain ⟨rfl, rfl⟩ := Prod.mk.inj (Option.some.inj h)
        obtain ⟨hne, hword, rfl⟩ := Text.of_run?_eq_some hrun
        exact ⟨⟨hne, hword⟩, rfl⟩
      · exact absurd h (by simp)
    · exact absurd h (by simp)
  · rintro ⟨hname, rfl⟩
    have hrun : Text.run? isWord (name ++ '}' :: rest) = some (name, '}' :: rest) :=
      Text.run?_append hname.1 hname.2 (by simp [isWord_close])
    simp only [bracedName?, hrun]

/-- The placeholders of the url are those that the two searches look for. -/
theorem isMark_iff {s name rest : List Char} :
    IsMark s name rest ↔ colonName? s = some (name, rest) ∨ bracedName? s = some (name, rest) := by
  rw [colonName?_eq_some_iff, bracedName?_eq_some_iff]
  constructor
  · rintro (⟨hname, hend⟩ | hname)
    · exact .inl ⟨hname, hend, rfl⟩
    · exact .inr ⟨hname, rfl⟩
  · rintro (⟨hname, hend, rfl⟩ | ⟨hname, rfl⟩)
    · exact .colon hname hend
    · exact .braces hname

theorem not_isMark_iff {s : List Char} :
    (∀ name behind, ¬ IsMark s name behind) ↔ colonName? s = none ∧ bracedName? s = none := by
  simp only [isMark_iff, not_or, Option.eq_none_iff_forall_ne_some, Prod.forall, ne_eq,
    forall_and]

/-- Every text can be read. -/
theorem exists_reads (s : List Char) : ∃ parts, Reads s parts := by
  induction hlength : s.length using Nat.strongRecOn generalizing s with
  | ind n ih =>
    cases s with
    | nil => exact ⟨[], .nil⟩
    | cons c rest =>
      by_cases hmark : ∃ name behind, IsMark (c :: rest) name behind
      · obtain ⟨name, behind, hmark⟩ := hmark
        have hshorter : behind.length < n := by
          cases hmark <;> simp only [List.length_cons, List.length_append] at hlength <;> omega
        obtain ⟨parts, hparts⟩ := ih _ hshorter behind rfl
        exact ⟨_, .mark hmark hparts⟩
      · rw [List.length_cons] at hlength
        obtain ⟨parts, hparts⟩ := ih rest.length (by omega) rest rfl
        exact ⟨_, .char (fun name behind h => hmark ⟨name, behind, h⟩) hparts⟩

/-! ### The path of a url -/

/-- The text with the names behind colons in braces. -/
def embraced (s : List Char) : List Char := Text.replaceAll colonName? braced s

theorem embraced_nil : embraced [] = [] := by
  rw [embraced, Text.replaceAll, Text.segments, List.flatMap_nil]

theorem embraced_cons_of_none {c : Char} {s : List Char} (h : colonName? (c :: s) = none) :
    embraced (c :: s) = c :: embraced s := by
  rw [embraced, Text.replaceAll, Text.segments_cons_of_none h]
  rfl

theorem embraced_colon {name rest : List Char} (hname : IsName name)
    (hend : ∀ c ∈ rest.head?, isWord c = false) :
    embraced (':' :: (name ++ rest)) = braced name ++ embraced rest := by
  have hmark := colonName?_eq_some_iff.2 ⟨hname, hend, rfl⟩
  rw [embraced, Text.replaceAll, Text.segments_cons_of_some hmark (by simp)]
  rfl

theorem colonName?_cons_of_ne {c : Char} (hc : c ≠ ':') (s : List Char) :
    colonName? (c :: s) = none := by
  unfold colonName?
  split
  · rename_i heq
    exact absurd (List.cons.inj heq).1 hc
  · rfl

theorem embraced_append {a : List Char} (ha : ∀ c ∈ a, c ≠ ':') (s : List Char) :
    embraced (a ++ s) = a ++ embraced s := by
  induction a with
  | nil => rfl
  | cons c a ih =>
    rw [List.forall_mem_cons] at ha
    rw [List.cons_append, embraced_cons_of_none (colonName?_cons_of_ne ha.1 _), ih ha.2,
      List.cons_append]

theorem IsMark.isName {s name rest : List Char} (h : IsMark s name rest) : IsName name := by
  cases h <;> assumption

theorem IsName.ne_colon_of_mem_braced {name : List Char} (h : IsName name) :
    ∀ c ∈ braced name, c ≠ ':' := by
  rw [braced, List.cons_append, List.forall_mem_cons, List.forall_mem_append,
    List.forall_mem_singleton]
  exact ⟨by decide, fun c hc => h.ne hc isWord_colon, by decide⟩

/-- A placeholder is written in braces. -/
theorem IsMark.embraced_eq {s name rest : List Char} (h : IsMark s name rest) :
    embraced s = braced name ++ embraced rest := by
  cases h with
  | colon hname hend => exact embraced_colon hname hend
  | braces hname =>
    have hsplit : '{' :: (name ++ '}' :: rest) = braced name ++ rest := by simp [braced]
    rw [hsplit, embraced_append hname.ne_colon_of_mem_braced]

/-- What the path starts with was there before, but for a brace. -/
theorem exists_of_embraced_eq_cons {s rest : List Char} {c : Char} (hc : c ≠ '{')
    (h : embraced s = c :: rest) : ∃ behind, s = c :: behind ∧ embraced behind = rest := by
  cases s with
  | nil => exact absurd (embraced_nil.symm.trans h) (by simp)
  | cons d s =>
    cases hfind : colonName? (d :: s) with
    | none =>
      rw [embraced_cons_of_none hfind] at h
      obtain ⟨rfl, hrest⟩ := List.cons.inj h
      exact ⟨s, rfl, hrest⟩
    | some found =>
      rw [(isMark_iff.2 (.inl hfind)).embraced_eq] at h
      exact absurd (List.cons.inj h).1.symm hc

theorem ne_open_of_isWord {c : Char} (h : isWord c = true) : c ≠ '{' := by
  rintro rfl
  exact absurd h (by simp [isWord_open])

/-- A word and a closing brace at the start of the path were there before. -/
theorem exists_of_embraced_eq {s name rest : List Char} (hname : ∀ c ∈ name, isWord c = true)
    (h : embraced s = name ++ '}' :: rest) : ∃ behind, s = name ++ '}' :: behind := by
  induction name generalizing s with
  | nil =>
    obtain ⟨behind, rfl, -⟩ := exists_of_embraced_eq_cons (by decide) h
    exact ⟨behind, rfl⟩
  | cons c name ih =>
    rw [List.forall_mem_cons] at hname
    obtain ⟨behind, rfl, hrest⟩ := exists_of_embraced_eq_cons (ne_open_of_isWord hname.1) h
    obtain ⟨behind', rfl⟩ := ih hname.2 hrest
    exact ⟨behind', rfl⟩

/-- The path is read as the url is. -/
theorem Reads.segments_eq {s : List Char} {parts : List (Char ⊕ List Char)} (h : Reads s parts) :
    Text.segments bracedName? (embraced s) = parts := by
  induction h with
  | nil => rw [embraced_nil, Text.segments]
  | @mark s name rest parts hmark hrest ih =>
    have hpath : embraced s = '{' :: (name ++ '}' :: embraced rest) := by
      rw [hmark.embraced_eq]
      simp [braced]
    have hfind := bracedName?_eq_some_iff.2 ⟨hmark.isName, hpath⟩
    rw [hpath] at hfind ⊢
    rw [Text.segments_cons_of_some hfind ?_, ih]
    rw [List.length_append, List.length_cons]
    omega
  | @char c rest parts hnone hrest ih =>
    obtain ⟨hcolon, hbrace⟩ := not_isMark_iff.1 hnone
    rw [embraced_cons_of_none hcolon]
    have hfind : bracedName? (c :: embraced rest) = none := by
      rw [Option.eq_none_iff_forall_ne_some]
      rintro ⟨name, behind⟩ hfound
      obtain ⟨hname, heq⟩ := bracedName?_eq_some_iff.1 hfound
      obtain ⟨rfl, hrest⟩ := List.cons.inj heq
      -- braces around a word were there before, and would have been read as a placeholder
      obtain ⟨behind', rfl⟩ := exists_of_embraced_eq hname.2 hrest
      exact hnone name behind' (.braces hname)
    rw [Text.segments_cons_of_none hfind, ih]

/-- There is one way to read a text. -/
theorem Reads.unique {s : List Char} {parts parts' : List (Char ⊕ List Char)} (h : Reads s parts)
    (h' : Reads s parts') : parts = parts' :=
  h.segments_eq.symm.trans h'.segments_eq

/-! ### What is left of a url -/

theorem IsMark.suffix {s name rest : List Char} (h : IsMark s name rest) : rest <:+ s := by
  cases h with
  | colon => exact (List.suffix_append name rest).trans (List.suffix_cons _ _)
  | braces =>
    exact ((List.suffix_cons _ _).trans (List.suffix_append name _)).trans (List.suffix_cons _ _)

/-- A closing brace that is not of an emptied placeholder was there before. -/
theorem Reads.head?_of_written {s : List Char} {parts : List (Char ⊕ List Char)} (h : Reads s parts)
    (hclose : '}' ∈ (written (fun _ => ['{', '}']) parts).head?) : '}' ∈ s.head? := by
  cases h with
  | nil => exact hclose
  | mark => exact absurd hclose (by simp [written])
  | char => simpa [written] using hclose

/-- Emptied placeholders are counted if no other text looks like one. -/
theorem Reads.count_eq {s : List Char} {parts : List (Char ⊕ List Char)} (h : Reads s parts)
    (hempty : ¬ ['{', '}'] <:+: s) :
    Text.count ['{', '}'] (written (fun _ => ['{', '}']) parts) = (names parts).length := by
  have hpieces : ∀ piece, (Text.piecesFrom ['{', '}'] 0 piece
      (written (fun _ => ['{', '}']) parts)).length = (names parts).length + 1 := by
    induction h with
    | nil => exact fun piece => rfl
    | mark hmark hrest ih =>
      intro piece
      have hpieces := ih (fun h => hempty (h.trans hmark.suffix.isInfix)) []
      simpa [written, names, Text.piecesFrom] using hpieces
    | @char c rest parts hnone hrest ih =>
      intro piece
      have hpieces := ih (fun h => hempty (h.trans (List.suffix_cons c rest).isInfix)) (c :: piece)
      have hprefix : List.isPrefixOf ['{', '}']
          (c :: written (fun _ => ['{', '}']) parts) = false := by
        rw [Bool.eq_false_iff, ne_eq, List.isPrefixOf_iff_prefix, List.cons_prefix_cons]
        rintro ⟨rfl, hclose⟩
        have hclose : '}' ∈ rest.head? := by
          refine hrest.head?_of_written ?_
          obtain ⟨behind, hbehind⟩ := hclose
          rw [← hbehind]
          rfl
        obtain ⟨behind, rfl⟩ := List.head?_eq_some_iff.1 hclose
        exact hempty (List.prefix_append ['{', '}'] behind).isInfix
      have hwritten : written (fun _ => ['{', '}']) (.inl c :: parts) =
          c :: written (fun _ => ['{', '}']) parts := rfl
      rw [hwritten, Text.piecesFrom, hprefix, if_neg Bool.false_ne_true]
      exact hpieces
  rw [Text.count, Text.pieces, hpieces, Nat.add_sub_cancel]

theorem colonName?_of_suffix_append {a b : List Char} (ha : ∀ c ∈ a, c ≠ ':')
    (hb : ∀ t, t <:+ b → colonName? t = none) : ∀ t, t <:+ a ++ b → colonName? t = none := by
  induction a with
  | nil => exact hb
  | cons c a ih =>
    rw [List.forall_mem_cons] at ha
    intro t ht
    rw [List.cons_append, List.suffix_cons_iff] at ht
    rcases ht with rfl | ht
    · exact colonName?_cons_of_ne ha.1 _
    · exact ih ha.2 t ht

/-- A path has no placeholder behind a colon. -/
theorem Reads.colonName?_of_suffix {s : List Char} {parts : List (Char ⊕ List Char)}
    (h : Reads s parts) : ∀ t, t <:+ embraced s → colonName? t = none := by
  induction h with
  | nil =>
    intro t ht
    rw [embraced_nil, List.suffix_nil] at ht
    rw [ht]
    rfl
  | mark hmark _ ih =>
    rw [hmark.embraced_eq]
    exact colonName?_of_suffix_append hmark.isName.ne_colon_of_mem_braced ih
  | @char c rest parts hnone _ ih =>
    intro t ht
    have hcolon := (not_isMark_iff.1 hnone).1
    rw [embraced_cons_of_none hcolon, List.suffix_cons_iff] at ht
    rcases ht with rfl | ht
    · -- a word behind the colon was there before, and would have been read as a placeholder
      rw [Option.eq_none_iff_forall_ne_some]
      rintro ⟨name, behind⟩ hfound
      obtain ⟨hname, -, heq⟩ := colonName?_eq_some_iff.1 hfound
      obtain ⟨rfl, hrest⟩ := List.cons.inj heq
      obtain ⟨d, name, rfl⟩ := List.exists_cons_of_ne_nil hname.1
      have hd : isWord d = true := hname.2 d List.mem_cons_self
      obtain ⟨behind', rfl, -⟩ := exists_of_embraced_eq_cons (ne_open_of_isWord hd) hrest
      exact absurd hcolon (by simp [colonName?, Text.run?, hd])
    · exact ih t ht

/-- A path has no other characters than its url but braces. -/
theorem Reads.mem_of_mem_embraced {s : List Char} {parts : List (Char ⊕ List Char)}
    (h : Reads s parts) {c : Char} (hc : c ∈ embraced s) : c ∈ s ∨ c = '{' ∨ c = '}' := by
  induction h with
  | nil =>
    rw [embraced_nil] at hc
    exact absurd hc List.not_mem_nil
  | @mark s name rest parts hmark _ ih =>
    rw [hmark.embraced_eq, braced] at hc
    have hname : name ⊆ s := by cases hmark <;> simp
    simp only [List.mem_append, List.mem_cons, List.not_mem_nil, or_false] at hc
    rcases hc with ((hc | hc) | hc) | hc
    · exact .inr (.inl hc)
    · exact .inl (hname hc)
    · exact .inr (.inr hc)
    · exact (ih hc).imp_left fun hc => hmark.suffix.subset hc
  | @char d rest parts hnone _ ih =>
    rw [embraced_cons_of_none (not_isMark_iff.1 hnone).1] at hc
    rcases List.mem_cons.1 hc with rfl | hc
    · exact .inl List.mem_cons_self
    · exact (ih hc).imp_left (List.mem_cons_of_mem d)

/-! ### Paths -/

/-- The part of a url in front of its query. -/
def front (url : String) : List Char := url.toList.takeWhile (· ≠ '?')

theorem toList_ofUrl (url : String) : (ofUrl url).toList = embraced (front url) :=
  String.toList_ofList

theorem template_ofUrl {url : String} {parts : List (Char ⊕ List Char)}
    (h : Reads (front url) parts) :
    template (ofUrl url) = String.ofList (written (fun _ => ['{', '}']) parts) := by
  rw [template, toList_ofUrl, Text.replaceAll, h.segments_eq, written]
  congr 2
  funext part
  cases part <;> rfl

theorem placeholders_ofUrl {url : String} {parts : List (Char ⊕ List Char)}
    (h : Reads (front url) parts) :
    placeholders (ofUrl url) = (names parts).map String.ofList := by
  rw [placeholders, toList_ofUrl, Text.findAll, h.segments_eq, names]
  congr 2
  funext part
  cases part <;> rfl

theorem question_not_mem_ofUrl (url : String) : '?' ∉ (ofUrl url).toList := by
  obtain ⟨parts, hparts⟩ := exists_reads (front url)
  rw [toList_ofUrl]
  intro hmem
  rcases hparts.mem_of_mem_embraced hmem with hmem | hbrace | hbrace
  · exact absurd (List.all_eq_true.1 List.all_takeWhile _ hmem) (by simp)
  · exact absurd hbrace (by decide)
  · exact absurd hbrace (by decide)

/-- The path of a path is the path. -/
theorem ofUrl_ofUrl (url : String) : ofUrl (ofUrl url) = ofUrl url := by
  obtain ⟨parts, hparts⟩ := exists_reads (front url)
  have hplain : ∀ c ∈ (ofUrl url).toList, decide (c ≠ '?') = true := by
    intro c hc
    rw [decide_eq_true_eq]
    rintro rfl
    exact question_not_mem_ofUrl url hc
  have hfront : front (ofUrl url) = (ofUrl url).toList := by
    have hall : ((ofUrl url).toList ++ []).takeWhile (· ≠ '?') =
        (ofUrl url).toList ++ [].takeWhile (· ≠ '?') := List.takeWhile_append_of_pos hplain
    rwa [List.append_nil, List.takeWhile_nil, List.append_nil] at hall
  apply String.toList_injective
  rw [toList_ofUrl, hfront, toList_ofUrl, embraced, Text.replaceAll,
    Text.segments_eq_map hparts.colonName?_of_suffix, List.flatMap_map]
  simp

/-- No word stands behind a colon in a path. -/
theorem not_isWord_behind_colon {url : String} {before behind : List Char} {c : Char}
    (h : (ofUrl url).toList = before ++ ':' :: c :: behind) : isWord c = false := by
  obtain ⟨parts, hparts⟩ := exists_reads (front url)
  rw [toList_ofUrl] at h
  have hnone := hparts.colonName?_of_suffix (':' :: c :: behind) ⟨before, h.symm⟩
  rw [Bool.eq_false_iff]
  intro hc
  exact absurd hnone (by simp [colonName?, Text.run?, hc])

end UrlPath

/-! ### The call -/

namespace Client

open UrlPath (Reads names written front)

/-- The call that a request with these parts of a url is sent by. -/
theorem callText_ofUrl (request : Request) {url : String} {parts : List (Char ⊕ List Char)}
    (h : Reads (front url) parts) :
    callText { request with path := UrlPath.ofUrl url } =
      "  const response = await client." ++ String.ofList (Text.lower request.method.toList)
        ++ "('" ++ String.ofList (written (fun _ => ['{', '}']) parts) ++ "'"
        ++ (if request.query.isEmpty then "" else " + queryParams")
        ++ String.join ((names parts).map fun name => ", " ++ access (String.ofList name))
        ++ bodyText request.body ++ ");\n" := by
  unfold callText
  simp only [UrlPath.template_ofUrl h, UrlPath.placeholders_ofUrl h, List.map_map,
    Function.comp_def]

/-- The function of a request calls with the url as it is read: all placeholders are emptied in the
text of the path, and what they name is passed in their order.  If nothing else in the url looks
like an emptied placeholder there are as many of these as arguments.  The path itself is the url
without its query and without colons in front of words, and stays so. -/
theorem call_follows_url (client : HttpClient) (owner error : String) (r : Reference)
    (request : Request) (url : String) :
    ∃ parts, Reads (front url) parts
      ∧ (∀ parts', Reads (front url) parts' → parts' = parts)
      ∧ (∃ before behind,
        functionText client owner error (r, { request with path := UrlPath.ofUrl url }) =
          before ++ ("  const response = await client."
            ++ String.ofList (Text.lower request.method.toList)
            ++ "('" ++ String.ofList (written (fun _ => ['{', '}']) parts) ++ "'"
            ++ (if request.query.isEmpty then "" else " + queryParams")
            ++ String.join ((names parts).map fun name => ", " ++ access (String.ofList name))
            ++ bodyText request.body ++ ");\n") ++ behind)
      ∧ (¬ ['{', '}'] <:+: front url →
        Text.count ['{', '}'] (written (fun _ => ['{', '}']) parts) = (names parts).length)
      ∧ UrlPath.ofUrl (UrlPath.ofUrl url) = UrlPath.ofUrl url
      ∧ '?' ∉ (UrlPath.ofUrl url).toList
      ∧ ∀ before c behind, (UrlPath.ofUrl url).toList = before ++ ':' :: c :: behind →
        Text.isWord c = false := by
  obtain ⟨parts, hparts⟩ := UrlPath.exists_reads (front url)
  refine ⟨parts, hparts, fun parts' h => h.unique hparts, ?_, hparts.count_eq,
    UrlPath.ofUrl_ofUrl url, UrlPath.question_not_mem_ofUrl url,
    fun before c behind => UrlPath.not_isWord_behind_colon⟩
  rw [← callText_ofUrl request hparts]
  refine ⟨"export async function " ++ functionName r.name ++ "(client: " ++ client.name
    ++ ", request: " ++ r.name ++ "): Promise<" ++ owner ++ "> \x7b\n" ++ queryText request.query,
    "  return await response.data<" ++ owner ++ ", " ++ error ++ ">();\n\x7d\n", ?_⟩
  unfold functionText
  simp only [String.append_assoc]

example : UrlPath.placeholders (UrlPath.ofUrl "/as/:id/\x7bb\x7d?c=:d") = ["id", "b"] := by
  decide +kernel

end Client

end ClientScribe
