import ClientScribe.Docs.Extraction
import ClientScribe.Proofs.Docs.Cells
import ClientScribe.Proofs.Json.Mention
import ClientScribe.Proofs.Text.Integer

/-!
Published tables.  A page shows a table of fields as an object in a parameters block, with a member
for each cell.  Whatever the text of the object is, and whatever stands around the block, the fields
of the table are read from the page.
-/

namespace ClientScribe

namespace Table

def columns : List Column := [.name, .type, .description]

/-- The key of a cell. -/
def Column.key (i : Nat) (column : Column) : String := s!"{i}-{column.number}"

def Column.headingKey (column : Column) : String := s!"h-{column.number}"

/-- The cells of row `i`. -/
def Row.cells (row : Row) (i : Nat) : Json.Members :=
  columns.map fun column => (column.key i, .str (row.get column))

def Row.headingCells (heading : Row) : Json.Members :=
  columns.map fun column => (column.headingKey, .str (heading.get column))

/-- The members of a table with a heading and rows that are numbered from zero. -/
def published (heading : Row) (rows : List Row) : Json.Members :=
  heading.headingCells ++ rows.zipIdx.flatMap fun x => x.1.cells x.2

/-- The field of a row. -/
def Row.field (row : Row) : TypeField :=
  ⟨String.ofList row.fieldName, TypeNode.infer row.type row.description, true, row.description⟩

/-! ### Keys -/

theorem mem_columns (column : Column) : column ∈ columns := by
  cases column <;> decide

instance {P : Column → Prop} [DecidablePred P] : Decidable (∀ column, P column) :=
  decidable_of_iff (∀ column ∈ columns, P column)
    ⟨fun h column => h column (mem_columns column), fun h column _ => h column⟩

theorem toList_key (i : Nat) (column : Column) :
    (column.key i).toList = Nat.toDigits 10 i ++ '-' :: (toString column.number).toList := by
  simp only [Column.key, String.toList_append, Nat.toString_eq_repr, Nat.toList_repr,
    List.append_assoc]
  rfl

theorem isStorable_key (i : Nat) (column : Column) : Text.isStorable (column.key i) = true := by
  have hhyphen : Text.isStorable "-" = true := by decide
  have hnumber : Text.isStorable (toString column.number) = true := by cases column <;> decide
  exact Text.isStorable_append.2
    ⟨Text.isStorable_append.2 ⟨Text.isStorable_toString i, hhyphen⟩, hnumber⟩

theorem isStorable_headingKey (column : Column) : Text.isStorable column.headingKey = true := by
  cases column <;> decide

theorem names_key_iff {i : Nat} (hi : i < 10 ^ Text.maxDigits) (column : Column) {r c : Int} :
    Names (column.key i) r c ↔ r = i ∧ c = column.number := by
  have hnames : Names (column.key i) i column.number := by
    refine ⟨_, _, toList_key i column, ?_, Text.integer?_toDigits hi, ?_⟩
    · intro hmem
      exact absurd (Nat.isDigit_of_mem_toDigits (by decide) (by decide) hmem) (by decide)
    · cases column <;> decide
  rw [← numbers?_eq_some_iff] at hnames ⊢
  rw [hnames, Option.some.injEq, Prod.mk.injEq]
  exact and_congr eq_comm eq_comm

theorem not_names_headingKey (column : Column) (r c : Int) : ¬ Names column.headingKey r c := by
  have hnone : numbers? column.headingKey = none := by cases column <;> decide +kernel
  rw [← numbers?_eq_some_iff, hnone]
  simp

/-! ### Cells -/

section

variable {heading : Row} {rows : List Row} {entries : Json.Members}

theorem mem_published_iff {e : String × Json} : e ∈ published heading rows ↔
    (∃ column : Column, e = (column.headingKey, .str (heading.get column)))
      ∨ ∃ i row, rows[i]? = some row ∧ ∃ column : Column,
        e = (column.key i, .str (row.get column)) := by
  simp only [published, Row.headingCells, Row.cells, List.mem_append, List.mem_map,
    List.mem_flatMap, mem_columns, true_and, Prod.exists, List.mk_mem_zipIdx_iff_getElem?]
  constructor
  · rintro (⟨column, rfl⟩ | ⟨row, i, hrow, column, rfl⟩)
    · exact .inl ⟨column, rfl⟩
    · exact .inr ⟨i, row, hrow, column, rfl⟩
  · rintro (⟨column, rfl⟩ | ⟨i, row, hrow, column, rfl⟩)
    · exact .inl ⟨column, rfl⟩
    · exact .inr ⟨row, i, hrow, column, rfl⟩

theorem pairwise_zipIdx (rows : List Row) : rows.zipIdx.Pairwise fun x y => x.2 < y.2 := by
  rw [← List.pairwise_map, List.zipIdx_map_snd]
  exact List.pairwise_lt_range' 1

theorem apart_keys {i j : Nat} (hi : i < 10 ^ Text.maxDigits) (hj : j < 10 ^ Text.maxDigits)
    {column other : Column} (h : i ≠ j ∨ column ≠ other) (v w : Json) :
    Apart (column.key i, v) (other.key j, w) := by
  intro r c hnames hother
  rw [names_key_iff hi] at hnames
  rw [names_key_iff hj] at hother
  rcases h with h | h
  · exact h (Int.ofNat.inj (hnames.1.symm.trans hother.1))
  · exact h (Column.number_inj.1 (hnames.2.symm.trans hother.2))

/-- The rows with names, and their numbers. -/
def named (rows : List Row) : List (Row × Nat) := rows.zipIdx.filter fun x => x.1.fieldName ≠ []

theorem mem_named_iff {x : Row × Nat} :
    x ∈ named rows ↔ rows[x.2]? = some x.1 ∧ x.1.fieldName ≠ [] := by
  rw [named, List.mem_filter, List.mem_zipIdx_iff_getElem?, decide_eq_true_eq]

theorem map_fst_named (rows : List Row) :
    (named rows).map Prod.fst = rows.filter (·.fieldName ≠ []) := by
  calc (named rows).map Prod.fst
    _ = (rows.zipIdx.map Prod.fst).filter (·.fieldName ≠ []) := by
      rw [List.filter_map]
      rfl
    _ = rows.filter (·.fieldName ≠ []) := by rw [List.zipIdx_map_fst]

section

variable (hlength : rows.length ≤ 10 ^ Text.maxDigits)

include hlength

theorem index_lt {i : Nat} {row : Row} (hrow : rows[i]? = some row) : i < 10 ^ Text.maxDigits :=
  (List.getElem?_eq_some_iff.1 hrow).1.trans_le hlength

/-- No cell is published twice. -/
theorem apart_published : (published heading rows).Pairwise Apart := by
  have hheading : ∀ e ∈ heading.headingCells, ∀ e', Apart e e' := by
    intro e he e' r c hnames
    obtain ⟨column, -, rfl⟩ := List.mem_map.1 he
    exact absurd hnames (not_names_headingKey column r c)
  have hindex : ∀ x ∈ rows.zipIdx, x.2 < 10 ^ Text.maxDigits :=
    fun x hx => index_lt hlength (List.mem_zipIdx_iff_getElem?.1 hx)
  rw [published, List.pairwise_append, List.pairwise_flatMap]
  refine ⟨List.pairwise_of_forall_mem_list fun e he e' _ => hheading e he e', ⟨?_, ?_⟩,
    fun e he e' _ => hheading e he e'⟩
  · intro x hx
    have hcolumns : columns.Pairwise (· ≠ ·) := by decide
    exact List.pairwise_map.2 (hcolumns.imp fun hne =>
      apart_keys (hindex x hx) (hindex x hx) (.inr hne) _ _)
  · refine (pairwise_zipIdx rows).imp_of_mem ?_
    intro x y hx hy hlt e he e' he'
    obtain ⟨column, -, rfl⟩ := List.mem_map.1 he
    obtain ⟨other, -, rfl⟩ := List.mem_map.1 he'
    exact apart_keys (hindex x hx) (hindex y hy) (.inl hlt.ne) _ _

/-- No key is published twice: that of a row names a cell, which those of the heading do not. -/
theorem nodup_published : ((published heading rows).map Prod.fst).Nodup := by
  have hheading : (heading.headingCells.map Prod.fst).Nodup :=
    show (columns.map Column.headingKey).Nodup by decide
  have hnames : ∀ e ∈ rows.zipIdx.flatMap fun x => x.1.cells x.2, ∃ r c, Names e.1 r c := by
    intro e he
    obtain ⟨x, hx, he⟩ := List.mem_flatMap.1 he
    obtain ⟨column, -, rfl⟩ := List.mem_map.1 he
    have hi := index_lt hlength (List.mem_zipIdx_iff_getElem?.1 hx)
    exact ⟨_, _, (names_key_iff hi column).2 ⟨rfl, rfl⟩⟩
  have hrows : ((rows.zipIdx.flatMap fun x => x.1.cells x.2).map Prod.fst).Nodup := by
    have hall : (published heading rows).Pairwise Apart := apart_published hlength
    refine List.pairwise_map.2 ((List.pairwise_append.1 hall).2.1.imp_of_mem ?_)
    intro e e' he _ hapart heq
    obtain ⟨r, c, hcell⟩ := hnames e he
    exact hapart r c hcell (heq ▸ hcell)
  rw [published, List.map_append, List.nodup_append]
  refine ⟨hheading, hrows, ?_⟩
  rintro k hk k' hk' rfl
  obtain ⟨e, he, rfl⟩ := List.mem_map.1 hk'
  obtain ⟨r, c, hcell⟩ := hnames e he
  obtain ⟨e', he', heq⟩ := List.mem_map.1 hk
  obtain ⟨column, -, rfl⟩ := List.mem_map.1 he'
  rw [← heq] at hcell
  exact not_names_headingKey column r c hcell

/-! The members of a table may stand in any order. -/

variable (hperm : entries.Perm (published heading rows))

include hperm

theorem cell_of_perm {i : Nat} {row : Row} (hrow : rows[i]? = some row) (column : Column) :
    cell entries i column.number = row.get column := by
  have hi := index_lt hlength hrow
  have hmem : (column.key i, .str (row.get column)) ∈ published heading rows :=
    mem_published_iff.2 (.inr ⟨i, row, hrow, column, rfl⟩)
  have hapart : entries.Pairwise Apart :=
    (hperm.pairwise_iff (Std.Symm.symm _ _)).2 (apart_published hlength)
  exact cell_of_mem hapart (hperm.mem_iff.2 hmem) ((names_key_iff hi column).2 ⟨rfl, rfl⟩)

/-- Every cell that a member names is in a row of the table. -/
theorem exists_row_of_names {e : String × Json} (he : e ∈ entries) {r c : Int}
    (hnames : Names e.1 r c) : ∃ (i : Nat) (row : Row), rows[i]? = some row ∧ r = i
      ∧ ∃ column : Column, c = column.number := by
  rcases mem_published_iff.1 (hperm.mem_iff.1 he) with
    ⟨column, rfl⟩ | ⟨i, row, hrow, column, rfl⟩
  · exact absurd hnames (not_names_headingKey column r c)
  · obtain ⟨hr, hc⟩ := (names_key_iff (index_lt hlength hrow) column).1 hnames
    exact ⟨i, row, hrow, hr, column, hc⟩

theorem nameIn_of_perm {i : Nat} {row : Row} (hrow : rows[i]? = some row) :
    nameIn entries i = row.fieldName := by
  have hname : cell entries i 0 = row.name := cell_of_perm hlength hperm hrow .name
  rw [nameIn, hname, Row.fieldName]

theorem fieldIn_of_perm {i : Nat} {row : Row} (hrow : rows[i]? = some row) :
    fieldIn entries i = row.field := by
  have htype : cell entries i 1 = row.type := cell_of_perm hlength hperm hrow .type
  have hdescription : cell entries i 2 = row.description :=
    cell_of_perm hlength hperm hrow .description
  rw [fieldIn, nameIn_of_perm hlength hperm hrow, htype, hdescription, Row.field]

/-- The numbers of the rows with names are those under which the table has names. -/
theorem mem_numbers_iff (r : Int) :
    r ∈ (named rows).map (fun x => (x.2 : Int)) ↔ nameIn entries r ≠ [] := by
  rw [List.mem_map]
  constructor
  · rintro ⟨x, hx, rfl⟩
    obtain ⟨hrow, hne⟩ := mem_named_iff.1 hx
    rwa [nameIn_of_perm hlength hperm hrow]
  · intro hne
    -- a name is not empty, so some member names its cell, and that member is in a row
    by_cases hcell : ∃ e ∈ entries, Names e.1 r 0
    · obtain ⟨e, he, hnames⟩ := hcell
      obtain ⟨i, row, hrow, rfl, -⟩ := exists_row_of_names hlength hperm he hnames
      rw [nameIn_of_perm hlength hperm hrow] at hne
      exact ⟨(row, i), mem_named_iff.2 ⟨hrow, hne⟩, rfl⟩
    · have hnone : ∀ e ∈ entries, ¬ Names e.1 r 0 := fun e he h => hcell ⟨e, he, h⟩
      exact absurd (by rw [nameIn, cell_of_forall_not hnone]; rfl) hne

/-- A published table gives the fields of its rows with names, in the order of the rows. -/
theorem fields_of_perm : fields entries = .ok ((rows.filter (·.fieldName ≠ [])).map Row.field) := by
  have hcolumns : ∀ e ∈ entries, ∀ r c, Names e.1 r c → 0 ≤ c := by
    intro e he r c hnames
    obtain ⟨-, -, -, -, column, rfl⟩ := exists_row_of_names hlength hperm he hnames
    cases column <;> decide
  have hascending : ((named rows).map fun x => (x.2 : Int)).Pairwise (· < ·) :=
    List.pairwise_map.2 (((pairwise_zipIdx rows).filter _).imp Int.ofNat_lt.2)
  have hfield : ∀ x ∈ named rows, fieldIn entries x.2 = x.1.field :=
    fun x hx => fieldIn_of_perm hlength hperm (mem_named_iff.1 hx).1
  calc fields entries
    _ = .ok (((named rows).map fun x => (x.2 : Int)).map (fieldIn entries)) :=
      fields_eq_of_numbers hcolumns hascending (mem_numbers_iff hlength hperm)
    _ = .ok (((named rows).map Prod.fst).map Row.field) := by
      rw [List.map_map, List.map_map]
      exact congrArg _ (List.map_congr_left hfield)
    _ = .ok ((rows.filter (·.fieldName ≠ [])).map Row.field) := by rw [map_fst_named]

end

/-! ### Strings -/

theorem not_mem_key {c : Char} (hdigit : c.isDigit = false) (hhyphen : c ≠ '-') (i : Nat)
    (column : Column) : c ∉ (column.key i).toList := by
  have hnumber : c ∉ (toString column.number).toList := by
    intro hmem
    have hall : ∀ column : Column, (toString column.number).toList.all Char.isDigit = true := by
      intro column
      cases column <;> decide
    exact absurd (hdigit.symm.trans (List.all_eq_true.1 (hall column) c hmem)) (by simp)
  rw [toList_key, List.mem_append, List.mem_cons, not_or, not_or]
  refine ⟨fun hmem => ?_, hhyphen, hnumber⟩
  have hc := Nat.isDigit_of_mem_toDigits (by decide) (by decide) hmem
  exact absurd (hdigit.symm.trans hc) (by simp)

/-- What no cell holds is in no key and no string of the table. -/
theorem not_infix_of_mentions {needle : List Char}
    (htexts : ∀ row ∈ heading :: rows, ∀ column, ¬ needle <:+: (row.get column).toList)
    (hbracket : '[' ∈ needle) (hperm : entries.Perm (published heading rows)) {x : String}
    (hx : (Json.obj entries).Mentions x) : ¬ needle <:+: x.toList := by
  have hkey {k : String} (h : '[' ∉ k.toList) : ¬ needle <:+: k.toList :=
    fun hin => h (hin.subset hbracket)
  cases hx with
  | key hmem =>
    rcases mem_published_iff.1 (hperm.mem_iff.1 hmem) with ⟨column, he⟩ | ⟨i, row, -, column, he⟩
    · obtain ⟨rfl, -⟩ := Prod.mk.inj he
      exact hkey (by cases column <;> decide)
    · obtain ⟨rfl, -⟩ := Prod.mk.inj he
      exact hkey (not_mem_key (by decide) (by decide) i column)
  | member hmem hx =>
    rcases mem_published_iff.1 (hperm.mem_iff.1 hmem) with
      ⟨column, rfl⟩ | ⟨i, row, hrow, column, rfl⟩
    · cases hx
      exact htexts heading List.mem_cons_self column
    · cases hx
      exact htexts row (List.mem_cons_of_mem heading (List.mem_of_getElem? hrow)) column

end

end Table

/-! ### Pages -/

open Table

/-- The block of a page is what stands between the first opening mark and the first closing mark
behind it. -/
theorem Body.block?_append {before block : String} (behind : String)
    (hbefore : ¬ "[block:parameters]".toList <:+: before.toList)
    (hblock : ¬ "[/block]".toList <:+: block.toList) :
    Body.block? (before ++ "[block:parameters]" ++ block ++ "[/block]" ++ behind) = some block := by
  have hopening : "[block:parameters]".toList = '[' :: "block:parameters]".toList := rfl
  have hclosing : "[/block]".toList = '[' :: "/block]".toList := rfl
  rw [hopening] at hbefore
  rw [hclosing] at hblock
  simp only [Body.block?, String.toList_append, List.append_assoc, hopening, hclosing]
  rw [Text.after?_append (by decide) hbefore, Option.bind_eq_bind, Option.bind_some,
    Text.before?_append (by decide) hblock, Option.bind_some, String.ofList_toList]
  rfl

/-- The texts of tables: objects of objects of strings. -/
def tableSpelling : Json.Spelling := (Json.Spelling.object (.object .string)).alone

theorem Body.cells_of_spelling [Interpreter] {block : String} {entries : Json.Members}
    (h : tableSpelling block.toList (.obj [("data", .obj entries)])) :
    Body.cells block = .ok (.ok entries) := by
  obtain ⟨depth, hdepth⟩ := Nat.exists_eq_add_of_le' Interpreter.two_le_jsonDepth
  have hread : (Json.Spelling.object (.object .string)).IsReadBy
      (Json.value false Interpreter.jsonDepth) := by
    rw [hdepth]
    exact Json.Spelling.object_isReadBy
      (Json.Spelling.object_isReadBy (Json.Spelling.string_isReadBy depth))
  rw [Body.cells, Json.read, Json.readWith_alone hread h]
  rfl

/-- A mark that no cell holds is not in the text of the table. -/
theorem Table.not_infix_of_spelling {block : String} {heading : Row} {rows : List Row}
    {entries : Json.Members} (hperm : entries.Perm (published heading rows))
    (h : tableSpelling block.toList (.obj [("data", .obj entries)]))
    (htexts : ∀ row ∈ heading :: rows, ∀ column,
      ¬ "[/block]".toList <:+: (row.get column).toList) :
    ¬ "[/block]".toList <:+: block.toList := by
  have hforeign : Json.IsForeign '[' "/block]".toList := by
    constructor <;> decide
  intro hblock
  obtain ⟨x, hx, hin⟩ := Json.Spelling.exists_mentions hforeign
    (Json.Spelling.object_shows hforeign (Json.Spelling.object_shows hforeign
      (Json.Spelling.string_shows hforeign))) h hblock
  cases hx with
  | key hmem =>
    obtain ⟨rfl, -⟩ := Prod.mk.inj (List.mem_singleton.1 hmem)
    exact absurd (hin.subset List.mem_cons_self) (by decide)
  | member hmem hx =>
    rw [List.mem_singleton.1 hmem] at hx
    exact not_infix_of_mentions htexts (by decide) hperm hx hin

/-- A published table is read back whole.  Its members may stand in any order and its text may have
any layout; the page may say anything in front of the block and behind it, as long as the marks of
the block stand for themselves.  Every row with a name gives a field, in the order of the rows, with
the description of the row and the types that its type and its description tell.  A number of a row
has to be short enough to be read, which it is for any table that a machine can hold. -/
theorem Visit.extract_publishedTable [Interpreter] (v : Visit) (htopic : v.topic = .typeDefinition)
    (heading : Row) (rows : List Row) (hlength : rows.length ≤ 10 ^ Text.maxDigits)
    (entries : Json.Members) (hentries : entries.Perm (published heading rows))
    (before block behind : String)
    (hbody : v.page.body = before ++ "[block:parameters]" ++ block ++ "[/block]" ++ behind)
    (hblock : tableSpelling block.toList (.obj [("data", .obj entries)]))
    (hbefore : ¬ "[block:parameters]".toList <:+: before.toList)
    (htexts : ∀ row ∈ heading :: rows, ∀ column, ¬ "[/block]".toList <:+: (row.get column).toList)
    (titles : List String) (product : String) :
    v.extract ⟨[], titles⟩ product =
      .done (some ⟨product, none, v.page.slug, Title.typeName v.page.title, v.page.excerpt,
        .type ((rows.filter (·.fieldName ≠ [])).map Row.field)⟩) := by
  have hclosed := not_infix_of_spelling hentries hblock htexts
  simp only [Visit.extract, htopic, Visit.extractType]
  rw [hbody, Body.block?_append behind hbefore hclosed]
  simp only [Body.cells_of_spelling hblock, fields_of_perm hlength hentries]
  rfl

/-- Every table of storable texts has a text: what is written for it, in any layout. -/
theorem tableSpelling_written {heading : Row} {rows : List Row} {entries : Json.Members}
    (hlength : rows.length ≤ 10 ^ Text.maxDigits)
    (hentries : entries.Perm (published heading rows))
    (hstorable : ∀ row ∈ heading :: rows, ∀ column, Text.isStorable (row.get column) = true)
    (layout : Json.Layout) :
    tableSpelling (Json.written layout (.obj [("data", .obj entries)]))
      (.obj [("data", .obj entries)]) := by
  have hdistinct : (entries.map Prod.fst).Nodup :=
    (hentries.map Prod.fst).nodup_iff.2 (nodup_published hlength)
  have hentry : ∀ e ∈ entries, Text.isStorable e.1 = true
      ∧ ∃ t, e.2 = .str t ∧ Text.isStorable t = true := by
    intro e he
    rcases mem_published_iff.1 (hentries.mem_iff.1 he) with
      ⟨column, rfl⟩ | ⟨i, row, hrow, column, rfl⟩
    · exact ⟨isStorable_headingKey column, _, rfl, hstorable heading List.mem_cons_self column⟩
    · exact ⟨isStorable_key i column, _, rfl,
        hstorable row (List.mem_cons_of_mem heading (List.mem_of_getElem? hrow)) column⟩
  refine ⟨[], Json.written layout (.obj [("data", .obj entries)]), [], by simp, Json.isGap_nil,
    Json.isGap_nil, ?_⟩
  have hdata : Text.isStorable "data" = true := by decide
  refine Json.Spelling.object_written (List.nodup_singleton _)
    (List.forall_mem_singleton.2 hdata) ?_
  refine List.forall_mem_singleton.2 (Json.Spelling.object_written hdistinct
    (fun e he => (hentry e he).1) ?_)
  intro e he
  obtain ⟨-, t, ht, htext⟩ := hentry e he
  rw [ht]
  exact Json.Spelling.string_written htext

def elevenNames : List Char := ['a', 'b', 'c', 'd', 'e', 'f', 'g', 'h', 'i', 'j', 'k']

/-- Eleven rows, so that the textual order of their numbers is not the order of the rows. -/
def elevenRows : List Row :=
  elevenNames.map fun c => ⟨String.ofList ['\x60', c, '\x60'], "string", ""⟩

def elevenHeading : Row := ⟨"Name", "Type", "Text"⟩

/-- The members of the table, from the last to the first. -/
def elevenMembers : Json.Members := (published elevenHeading elevenRows).reverse

def elevenBlock : String :=
  String.ofList (Json.written (.indented 0) (.obj [("data", .obj elevenMembers)]))

/-- The page goes on with a closing mark that belongs to no block. -/
def elevenPage : Visit :=
  ⟨⟨"Letters Object", "letters", "basic",
    "Fields:\n" ++ "[block:parameters]" ++ elevenBlock ++ "[/block]" ++ "[/block]", "", none, []⟩,
    none⟩

theorem elevenPage_read :
    elevenPage.topic = .typeDefinition
    ∧ elevenRows.length ≤ 10 ^ Text.maxDigits
    ∧ elevenMembers.Perm (published elevenHeading elevenRows)
    ∧ elevenPage.page.body =
      "Fields:\n" ++ "[block:parameters]" ++ elevenBlock ++ "[/block]" ++ "[/block]"
    ∧ tableSpelling elevenBlock.toList (.obj [("data", .obj elevenMembers)])
    ∧ elevenPage.extract ⟨[], []⟩ "p" =
      .done (some ⟨"p", none, "letters", "Letters", "", .type (elevenNames.map fun c =>
        ⟨String.ofList [c], [.plain "string"], true, ""⟩)⟩) := by
  have htopic : elevenPage.topic = .typeDefinition := by decide
  have hlength : elevenRows.length ≤ 10 ^ Text.maxDigits := by decide +kernel
  have hperm : elevenMembers.Perm (published elevenHeading elevenRows) := List.reverse_perm _
  have hspelling : tableSpelling elevenBlock.toList (.obj [("data", .obj elevenMembers)]) := by
    rw [elevenBlock, String.toList_ofList]
    exact tableSpelling_written hlength hperm (by decide) (.indented 0)
  have hbefore : ¬ "[block:parameters]".toList <:+: "Fields:\n".toList := by decide
  have htexts : ∀ row ∈ elevenHeading :: elevenRows, ∀ column,
      ¬ "[/block]".toList <:+: (row.get column).toList := by decide
  have hfields : (elevenRows.filter (·.fieldName ≠ [])).map Row.field =
      elevenNames.map fun c => ⟨String.ofList [c], [.plain "string"], true, ""⟩ := by
    have hnamed : elevenRows.filter (·.fieldName ≠ []) = elevenRows := by decide
    have hname : ∀ c ∈ elevenNames,
        (Row.fieldName ⟨String.ofList ['\x60', c, '\x60'], "string", ""⟩ == [c]) = true :=
      List.all_eq_true.1 (by decide)
    have htype : TypeNode.infer "string" "" = [.plain "string"] := rfl
    rw [hnamed, elevenRows, List.map_map]
    refine List.map_congr_left fun c hc => ?_
    rw [Function.comp_apply, Row.field, eq_of_beq (hname c hc), htype]
  refine ⟨htopic, hlength, hperm, rfl, hspelling, ?_⟩
  rw [← hfields]
  exact Visit.extract_publishedTable elevenPage htopic elevenHeading elevenRows hlength
    elevenMembers hperm "Fields:\n" elevenBlock "[/block]" rfl hspelling hbefore htexts [] "p"

end ClientScribe
