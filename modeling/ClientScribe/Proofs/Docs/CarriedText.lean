import ClientScribe.Docs.Page
import ClientScribe.Proofs.Html.Markup
import ClientScribe.Proofs.Json.Grammar

/-!
Pages that carry their documentation: complete markup, the start tag of the documentation element
with the escaped text in its attribute, and markup again.  The text comes back as it was, and if it
is a list, each of its items gives a node or a notice whatever the others are.
-/

namespace ClientScribe

open Html (WrittenTag StartTag SpellsTag SpellsInside Markup IsNumberRef IsShortRef)

/-! ### Items -/

/-- What an item gives: a node, or a warning why it is none. -/
def Embedded.outcome (item : Json) : DocNode ⊕ Notice :=
  match Decode.docNode item with
  | .ok node => .inl node
  | .rejected issues => .inr (.badNode ((item.get? "title").getD .null) issues)

/-- Nodes and notices stand in the order of the items. -/
theorem Embedded.ofItems_eq (items : List Json) :
    Embedded.ofItems items = ⟨(items.map Embedded.outcome).filterMap Sum.getLeft?,
      (items.map Embedded.outcome).filterMap Sum.getRight?⟩ := by
  induction items with
  | nil => rfl
  | cons item items ih =>
    rw [Embedded.ofItems, List.foldr_cons, ← Embedded.ofItems, ih, Embedded.cons, List.map_cons,
      Embedded.outcome]
    cases Decode.docNode item <;> rfl

/-! ### Pages -/

/-- The texts of pages that carry a text: the attribute of the first element with the id has it with
its references. -/
inductive CarriesText : List Char → List Char → Prop
  | mk {before tag inside behind text : List Char} {ts us : List StartTag} {t : WrittenTag}
    (hbefore : Markup IsNumberRef before ts)
    (hfirst : ∀ u ∈ ts, u.value? "id" ≠ some docsElementId)
    (htag : SpellsTag tag t) (hid : t.read.value? "id" = some docsElementId)
    (hdata : t.written? docsAttribute = some (Html.escape text))
    (hinside : SpellsInside t inside) (hbehind : Markup IsShortRef behind us) :
    CarriesText (before ++ '<' :: (tag ++ inside ++ behind)) text

/-- The tag of the element is found, whatever stands around it. -/
theorem CarriesText.tags {page : String} {text : List Char} (h : CarriesText page.toList text) :
    ∃ ts us t, Html.tags page = .ok (ts ++ t :: us)
      ∧ (∀ u ∈ ts, u.value? "id" ≠ some docsElementId) ∧ t.value? "id" = some docsElementId
      ∧ t.value? docsAttribute = some (String.ofList text) := by
  generalize hs : page.toList = s at h
  obtain ⟨hbefore, hfirst, htag, hid, hdata, hinside, hbehind⟩ := h
  rename_i before tag inside behind ts us t
  obtain ⟨n, hn, hgo⟩ := Html.tagsFrom_markup hbefore (tag ++ inside ++ behind) (Nat.le_refl _)
  obtain ⟨n, rfl⟩ : ∃ m, n = m + 1 := Nat.exists_eq_succ_of_ne_zero (by rintro rfl; simp at hn)
  obtain ⟨vs, hvs⟩ := Html.tagsFrom_short hbehind false n
  have hpiece : Html.tagsFrom false (n + 1) ('<' :: (tag ++ inside) ++ behind) = _ :=
    Html.tagsFrom_piece (.start htag hinside) behind
  refine ⟨ts, vs, t.read, ?_, hfirst, hid, ?_⟩
  · rw [Html.tags, hs, hgo]
    rw [List.cons_append, hvs] at hpiece
    rw [hpiece]
    rfl
  · rw [WrittenTag.value?_read, hdata, Option.map_some, Html.unescape_escape]

/-- The start tag of an element that carries a text, as it is usually written. -/
def docsTag (text : List Char) : List Char :=
  'd' :: ['i', 'v'] ++ ([' '] ++ ("id".toList ++ '=' :: '"' :: (docsElementId.toList ++ ['"']) ++
    ([' '] ++ (docsAttribute.toList ++ '=' :: '"' :: (Html.escape text ++ ['"']) ++
      ([] ++ Html.tagClose false)))))

theorem docsTag_spelled (text : List Char) :
    SpellsTag (docsTag text)
      ⟨"div", [("id", docsElementId.toList), (docsAttribute, Html.escape text)], false⟩ := by
  have hattribute {name raw : List Char} {key : String} (hname : Html.IsAttributeName name)
      (hkey : String.ofList (Text.lower name) = key) (hraw : '"' ∉ raw) :
      Html.SpellsAttribute false (name ++ '=' :: '"' :: (raw ++ ['"'])) (key, raw) := by
    subst hkey
    exact @Html.SpellsAttribute.quoted name [] [] raw '"' hname (by decide) (by decide) rfl hraw
  have hquote : '"' ∉ Html.escape text := fun h =>
    absurd (Html.isQuote_of_mem_escape h) (by decide)
  have hname : ∀ c ∈ ['d', 'i', 'v'], Html.endsTagName c = false := by
    simpa using List.any_eq_false.1 (show ['d', 'i', 'v'].any Html.endsTagName = false by decide)
  refine .mk (by decide) hname (.more (by decide) (by simp)
    (hattribute (by decide) rfl (by decide)) (.more (by decide) (by simp)
      (hattribute (by decide) rfl hquote) (.close (by decide) (by simp)))) ?_
  simp only [List.forall_mem_cons, List.not_mem_nil, false_implies, implies_true, and_true]
  exact ⟨by decide, Html.longRef?_escape text⟩

/-- A page with such an element. -/
def docsPage (before text behind : List Char) : String :=
  String.ofList (before ++ '<' :: (docsTag text ++ [] ++ behind))

/-- It carries the text between any complete markup. -/
theorem docsPage_carries {before behind : List Char} {ts us : List StartTag}
    (hbefore : Markup IsNumberRef before ts) (hfirst : ∀ u ∈ ts, u.value? "id" ≠ some docsElementId)
    (hbehind : Markup IsShortRef behind us) (text : List Char) :
    CarriesText (docsPage before text behind).toList text := by
  have hmarkup : "div" ∉ Html.rawElements := by decide
  have hdecoded : String.ofList (Html.unescape docsElementId.toList) = docsElementId := by
    rw [Html.unescape_of_not_mem (by decide), String.ofList_toList]
  rw [docsPage, String.toList_ofList]
  refine .mk hbefore hfirst (docsTag_spelled text) ?_ rfl (.markup (.inl hmarkup)) hbehind
  rw [WrittenTag.value?_read]
  exact congrArg some hdecoded

/-- A page is read as the text that it carries. -/
theorem CarriesText.readPage [Interpreter] {page : String} {text : List Char}
    (h : CarriesText page.toList text) (hne : text ≠ []) :
    readPage page = (Embedded.read (String.ofList text)).mapError .excess := by
  obtain ⟨ts, us, t, htags, hfirst, hid, hdata⟩ := h.tags
  have hfind : Html.elementById? docsElementId (ts ++ t :: us) = some t := by
    have hnone : ts.find? (fun u => u.value? "id" == some docsElementId) = none :=
      List.find?_eq_none.2 fun u hu heq => hfirst u hu (eq_of_beq heq)
    rw [Html.elementById?, List.find?_append, hnone, Option.none_or,
      List.find?_cons, beq_iff_eq.2 hid]
  have htext : docsText (ts ++ t :: us) = .ok (String.ofList text) := by
    have hsome : String.ofList text ≠ "" := fun heq =>
      hne (by simpa using congrArg String.toList heq)
    rw [docsText, hfind]
    simp only [hdata]
  rw [ClientScribe.readPage, htags]
  simp only [htext]

/-- The texts of lists that have, with the list itself, no more arrays and objects inside each other
than the interpreter leaves room for. -/
def listSpelling [Interpreter] : Json.Spelling :=
  (Json.Spelling.array (Json.Spelling.value (Interpreter.jsonDepth - 1))).alone

theorem listSpelling_read [Interpreter] {text : List Char} {items : List Json}
    (h : listSpelling text (.arr items)) :
    Embedded.read (String.ofList text) = .ok (.ok (Embedded.ofItems items)) := by
  have hroom : Interpreter.jsonDepth - 1 + 1 = Interpreter.jsonDepth :=
    Nat.sub_add_cancel (Nat.le_of_lt Interpreter.two_le_jsonDepth)
  have hlist : (Json.Spelling.array (Json.Spelling.value (Interpreter.jsonDepth - 1))).IsReadBy
      (Json.value false Interpreter.jsonDepth) := by
    have h := Json.Spelling.array_isReadBy
      (Json.Spelling.value_isReadBy (Interpreter.jsonDepth - 1))
    rwa [hroom] at h
  have hread : Json.read (String.ofList text) = .ok (.arr items) := by
    rw [Json.read, String.toList_ofList]
    exact Json.readWith_alone hlist h
  rw [Embedded.read, hread]
  rfl

theorem listSpelling.ne_nil [Interpreter] {text : List Char} {v : Json} (h : listSpelling text v) :
    text ≠ [] := by
  obtain ⟨g, s, g', rfl, -, -, harray⟩ := h
  rintro hnil
  obtain ⟨rfl, hnil⟩ := List.append_eq_nil_iff.1 hnil
  cases harray <;> simp at hnil

/-- A list that a page carries comes back item by item. -/
theorem CarriesText.readPage_list [Interpreter] {page : String} {text : List Char}
    {items : List Json}
    (h : CarriesText page.toList text) (hlist : listSpelling text (.arr items)) :
    ClientScribe.readPage page = .ok (.ok
      ⟨(items.map Embedded.outcome).filterMap Sum.getLeft?,
        (items.map Embedded.outcome).filterMap Sum.getRight?⟩) := by
  rw [h.readPage hlist.ne_nil, listSpelling_read hlist, Embedded.ofItems_eq]
  rfl

/-! ### A page with a node and a number -/

def basicNode : Json := .obj [("title", .str "A & B"), ("slug", .str "a"), ("type", .str "basic")]

def twoItemsText : List Char := '[' :: (Json.written .compact basicNode ++ [',', ' ', '3', ']'])

theorem twoItemsText_spelled : listSpelling twoItemsText (.arr [basicNode, .int 3]) := by
  have hnode : Json.Spelling.value 984 (Json.written .compact basicNode) basicNode := by
    refine .inr (.inr (Json.Spelling.object_written (by decide) (by decide) ?_))
    simp only [List.forall_mem_cons, List.not_mem_nil, false_implies, implies_true, and_true]
    exact ⟨.inl (.string (Json.Spelling.string_written (by decide))),
      .inl (.string (Json.Spelling.string_written (by decide))),
      .inl (.string (Json.Spelling.string_written (by decide)))⟩
  have hnumber : Json.Spelling.value 984 ['3'] (.int 3) := by
    refine .inl (.number (.positive ?_))
    exact @Json.SpellsUnsigned.mk false ['3'] [] [] [] none (by simp [Json.IsDigits]) (by simp)
      .absent .absent (by decide)
  have htext : twoItemsText = '[' :: ([] ++ (Json.written .compact basicNode ++
      ([] ++ ',' :: ([' '] ++ (['3'] ++ []))) ++ [']'])) := by
    simp [twoItemsText]
  refine ⟨[], twoItemsText, [], by simp, Json.isGap_nil, Json.isGap_nil, htext ▸ ?_⟩
  exact .items Json.isGap_nil (.more hnode Json.isGap_nil (by simp [Json.IsGap, Json.isGap])
    (.last hnumber Json.isGap_nil))

/-- The tag `<p>` and a reference stand in front, and an end tag behind. -/
def twoItemsPage : String :=
  docsPage ['<', 'p', '>', '&', '#', '3', '8', ';'] twoItemsText ['<', '/', 'd', 'i', 'v', '>']

theorem twoItemsPage_carries : CarriesText twoItemsPage.toList twoItemsText := by
  have htag : SpellsTag ('p' :: [] ++ ([] ++ Html.tagClose false)) ⟨"p", [], false⟩ := by
    refine .mk (by decide) ?_ (.close (by decide) (by simp)) (by simp)
    exact List.forall_mem_singleton.2 (by decide)
  have href : IsNumberRef (['3', '8'] ++ [';']) :=
    .decimal (by simp) (List.all_eq_true.1 (by decide)) (by decide)
      fun c hc => Option.some.inj hc ▸ by decide
  have hmarkup : "p" ∉ Html.rawElements := by decide
  have hbefore : Markup IsNumberRef ('<' :: ('p' :: [] ++ ([] ++ Html.tagClose false) ++ [])
      ++ '&' :: '#' :: (['3', '8'] ++ [';'])) [⟨"p", [], false⟩] :=
    .piece (.start htag (.markup (.inl hmarkup))) (.ref href (.plain (by decide) (by decide)
      (.plain (by decide) (by decide) (.plain (by decide) (by decide) .nil))))
  have hbehind : Markup IsShortRef ('<' :: '/' :: (['d', 'i', 'v'] ++ ['>']) ++ []) [] :=
    .piece (.stop (by decide)) .nil
  exact docsPage_carries hbefore (List.forall_mem_singleton.2 (by decide)) hbehind twoItemsText

theorem twoItemsPage_read :
    CarriesText twoItemsPage.toList twoItemsText
    ∧ listSpelling twoItemsText (.arr [basicNode, .int 3])
    ∧ readPage twoItemsPage = .ok (.ok ⟨[⟨"A & B", "a", "basic", "", "", none, []⟩],
        [.badNode .null [⟨[], .notRecord⟩]]⟩) :=
  ⟨twoItemsPage_carries, twoItemsText_spelled,
    twoItemsPage_carries.readPage_list twoItemsText_spelled⟩

/-! ### Pages that cannot be read -/

theorem readPage_docsPage [Interpreter] {s : List Char} {e : Json.Excess}
    (h : Json.value false Interpreter.jsonDepth ('[' :: s) = .error (.excess e)) :
    readPage (docsPage [] ('[' :: s) []) = .error (.excess e) := by
  have hcarries := docsPage_carries .nil (by simp) .nil ('[' :: s)
  have hread : Json.read (String.ofList ('[' :: s)) = .error (.excess e) := by
    rw [Json.read, String.toList_ofList, Json.readWith_array_error h]
  rw [hcarries.readPage (by simp), Embedded.read, hread]
  rfl

def manyDigits : List Char := List.replicate (Text.maxDigits + 1) '1'

/-- More lists inside each other than the interpreter leaves room for are not read. -/
theorem nest_refused [Interpreter] {n : Nat} (h : Interpreter.jsonDepth ≤ n) :
    readPage (docsPage [] (Json.nestText n) []) = .error (.excess .arrayNesting) := by
  obtain ⟨k, rfl⟩ := Nat.exists_eq_add_of_le h
  obtain ⟨t, ht⟩ := Json.exists_nestText_eq (Interpreter.jsonDepth + k)
  have hnest := Json.value_nestText Interpreter.jsonDepth k []
  rw [List.append_nil, ht] at hnest
  rw [ht]
  exact readPage_docsPage hnest

/-- Too many lists inside each other, a number or a reference of too many digits, and two broken
references in front: the list is not read. -/
theorem lists_refused :
    Json.Spelling.array (Json.Spelling.value recursionLimit) (Json.nestText recursionLimit)
      (Json.nest recursionLimit)
    ∧ ∀ [Interpreter],
      readPage (docsPage [] (Json.nestText recursionLimit) []) = .error (.excess .arrayNesting)
      ∧ readPage (docsPage [] ('[' :: (manyDigits ++ [']'])) []) =
        .error (.excess (.digits manyDigits.length))
      ∧ readPage (docsPage ('&' :: '#' :: (manyDigits ++ [';'])) ['[', ']'] []) =
        .error (.markup (.longRef manyDigits.length))
      ∧ readPage (docsPage ['&', '#', ';', '&', '#', ';'] ['[', ']'] []) =
        .ok (.error .noElement) := by
  have hdigits : ∀ d ∈ manyDigits, d.isDigit = true := by
    intro d hd
    rw [List.eq_of_mem_replicate hd]
    decide
  have hlong : Text.maxDigits < manyDigits.length := by
    rw [manyDigits, List.length_replicate]
    exact Nat.lt_succ_self _
  have hcons : manyDigits = '1' :: List.replicate Text.maxDigits '1' := List.replicate_succ
  refine ⟨Json.nestText_spelled recursionLimit, fun [_] =>
    ⟨nest_refused (Nat.le_of_lt Interpreter.jsonDepth_lt), ?_, ?_, ?_⟩⟩
  · have hnumber (depth : Nat) : Json.value false depth (manyDigits ++ [']']) =
        .error (.excess (.digits manyDigits.length)) :=
      Json.value_long ⟨by simp [hcons], hdigits⟩ (by simp [hcons]) hlong
        (Json.isBehind_cons (by decide) []) depth
    have hroom : 2 ≤ Interpreter.jsonDepth := Interpreter.two_le_jsonDepth
    obtain ⟨depth, hdepth⟩ := Nat.exists_eq_succ_of_ne_zero (Nat.ne_of_gt (Nat.zero_lt_of_lt hroom))
    refine readPage_docsPage ?_
    rw [hdepth]
    refine Json.value_array_error ?_ ?_ (hnumber depth)
    · rw [hcons]
      exact Json.skipGap_cons (by decide) _
    · simp [hcons]
  · have htags : Html.tags (docsPage ('&' :: '#' :: (manyDigits ++ [';'])) ['[', ']'] []) =
        .error (.longRef manyDigits.length) := by
      rw [Html.tags, docsPage, String.toList_ofList]
      simp only [List.cons_append, List.append_assoc, List.length_cons]
      exact Html.tagsFrom_longRef hdigits hlong _
    rw [readPage, htags]
  · have htags : Html.tags (docsPage ['&', '#', ';', '&', '#', ';'] ['[', ']'] []) = .ok [] := by
      rw [Html.tags, docsPage, String.toList_ofList]
      rfl
    rw [readPage, htags]
    rfl

end ClientScribe
