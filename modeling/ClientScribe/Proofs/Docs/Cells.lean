import ClientScribe.Docs.Table
import Mathlib.Data.List.Pairwise
import Mathlib.Data.List.Sort

/-!
Tables by their cells.  A key names a cell by two numbers, and a cell holds what was written last
under a key that names it.  A table that is written cell by cell is read row by row, in the order of
the row numbers, whatever the order of its entries is.
-/

namespace ClientScribe.Table

/-- A key names a cell: up to its first hyphen it is the number of the row, and behind it that of
the column. -/
def Names (key : String) (r c : Int) : Prop :=
  ∃ row column, key.toList = row ++ '-' :: column ∧ '-' ∉ row
    ∧ Text.integer? row = some r ∧ Text.integer? column = some c

theorem numbers?_eq_some_iff {key : String} {r c : Int} :
    numbers? key = some (r, c) ↔ Names key r c := by
  have hheading : Text.integer? ['h'] = none := by decide
  have hempty : Text.integer? [] = none := by decide
  constructor
  · intro h
    simp only [numbers?] at h
    split at h
    · exact absurd h (by simp)
    · simp only [Option.bind_eq_bind, Option.bind_eq_some_iff, Option.pure_def, Option.some.injEq,
        Prod.mk.injEq] at h
      obtain ⟨r', hr, c', hc, rfl, rfl⟩ := h
      cases hrest : key.toList.dropWhile (· ≠ '-') with
      | nil =>
        rw [hrest, List.drop_nil, hempty] at hc
        exact absurd hc (by simp)
      | cons d column =>
        have hd := List.head?_dropWhile_not (· ≠ '-') key.toList
        rw [hrest, List.head?_cons] at hd
        obtain rfl : d = '-' := by simpa using hd
        have hrow : '-' ∉ key.toList.takeWhile (· ≠ '-') := by
          intro hmem
          simpa using List.all_eq_true.1 List.all_takeWhile _ hmem
        refine ⟨_, column, ?_, hrow, hr, by rwa [hrest] at hc⟩
        rw [← hrest, List.takeWhile_append_dropWhile]
  · rintro ⟨row, column, hkey, hrow, hr, hc⟩
    have hbefore : ∀ c ∈ row, decide (c ≠ '-') = true :=
      fun c hc => decide_eq_true fun h => hrow (h ▸ hc)
    have hend : ∀ c ∈ ('-' :: column).head?, decide (c ≠ '-') = false := by simp
    obtain ⟨hdrop, htake⟩ := Text.dropWhile_append_of_head? hbefore hend
    have hne : row ≠ ['h'] := by
      rintro rfl
      exact absurd (hheading.symm.trans hr) (by simp)
    simp only [numbers?, hkey, hdrop, htake, if_neg hne, hr, List.drop_one, List.tail_cons, hc]
    rfl

instance (key : String) (r c : Int) : Decidable (Names key r c) :=
  decidable_of_iff (numbers? key = some (r, c)) numbers?_eq_some_iff

/-- A key names no cell but the one that its numbers tell. -/
theorem forall_names_iff {key : String} {P : Int → Int → Prop} :
    (∀ r c, Names key r c → P r c) ↔ ∀ x ∈ numbers? key, P x.1 x.2 := by
  simp only [← numbers?_eq_some_iff, Option.mem_def, Prod.forall]

/-- The text of a cell: that of the last entry whose key names it.  A cell that is not there is
empty. -/
def cell (entries : Json.Members) (r c : Int) : String :=
  ((entries.reverse.find? fun e => Names e.1 r c).map fun e => e.2.display).getD ""

/-- The name in a row: the text of its first cell without code quotes, trimmed. -/
def nameIn (entries : Json.Members) (r : Int) : List Char :=
  Text.trim ((cell entries r 0).toList.filter (· ≠ '\x60'))

/-- The field that a row describes. -/
def fieldIn (entries : Json.Members) (r : Int) : TypeField :=
  ⟨String.ofList (nameIn entries r), TypeNode.infer (cell entries r 1) (cell entries r 2), true,
    cell entries r 2⟩

/-! ### Rows -/

/-- The text of a cell of a row. -/
def Row.get (row : Row) : Column → String
  | .name => row.name
  | .type => row.type
  | .description => row.description

theorem Row.get_set (row : Row) (column other : Column) (text : String) :
    (row.set column text).get other = if other = column then text else row.get other := by
  cases column <;> cases other <;> rfl

theorem Row.get_empty (column : Column) : Row.empty.get column = "" := by
  cases column <;> rfl

/-- The number of a column. -/
def Column.number : Column → Int
  | .name => 0
  | .type => 1
  | .description => 2

theorem Column.number_inj {column other : Column} :
    column.number = other.number ↔ column = other := by
  cases column <;> cases other <;> decide

namespace Rows

variable {rows : Rows} {r : Int} {column : Column} {text : String}

/-- Rows in ascending order of their numbers. -/
def Ascending (rows : Rows) : Prop := rows.Pairwise fun a b => a.1 < b.1

/-- The text of a cell; the cells of a row that is not there are empty. -/
def textAt (rows : Rows) (r : Int) (column : Column) : String :=
  ((rows.lookup r).getD Row.empty).get column

theorem lookup_eq_none (h : ∀ row ∈ rows, r < row.1) : rows.lookup r = none := by
  rw [List.lookup_eq_none_iff]
  intro row hrow
  simpa using Int.ne_of_lt (h row hrow)

theorem lookup_eq_some (h : Ascending rows) {row : Row} (hrow : (r, row) ∈ rows) :
    rows.lookup r = some row := by
  induction rows with
  | nil => exact absurd hrow List.not_mem_nil
  | cons first rest ih =>
    obtain ⟨hfirst, hrest⟩ := List.pairwise_cons.1 h
    rcases List.mem_cons.1 hrow with rfl | hrow
    · exact List.lookup_cons_self
    · have hne : (r == first.1) = false := by
        simpa using (Int.ne_of_lt (hfirst _ hrow)).symm
      rw [List.lookup_cons, hne]
      exact ih hrest hrow

theorem mem_write {x : Int × Row} (h : x ∈ write r column text rows) :
    x.1 = r ∨ ∃ y ∈ rows, y.1 = x.1 := by
  induction rows with
  | nil => exact .inl (congrArg Prod.fst (List.mem_singleton.1 h))
  | cons first rest ih =>
    obtain ⟨n, row⟩ := first
    rw [write] at h
    split at h
    · rcases List.mem_cons.1 h with rfl | h
      · exact .inl rfl
      · exact .inr ⟨x, h, rfl⟩
    · split at h
      · rename_i heq
        rcases List.mem_cons.1 h with rfl | h
        · exact .inl heq.symm
        · exact .inr ⟨x, List.mem_cons_of_mem _ h, rfl⟩
      · rcases List.mem_cons.1 h with rfl | h
        · exact .inr ⟨_, List.mem_cons_self, rfl⟩
        · exact (ih h).imp_right fun ⟨y, hy, heq⟩ => ⟨y, List.mem_cons_of_mem _ hy, heq⟩

theorem ascending_write (h : Ascending rows) : Ascending (write r column text rows) := by
  induction rows with
  | nil => exact List.pairwise_singleton _ _
  | cons first rest ih =>
    obtain ⟨n, row⟩ := first
    obtain ⟨hfirst, hrest⟩ := List.pairwise_cons.1 h
    rw [write]
    split
    · rename_i hlt
      refine List.pairwise_cons.2 ⟨?_, h⟩
      exact List.forall_mem_cons.2 ⟨hlt, fun x hx => Int.lt_trans hlt (hfirst x hx)⟩
    · split
      · exact List.pairwise_cons.2 ⟨hfirst, hrest⟩
      · refine List.pairwise_cons.2 ⟨?_, ih hrest⟩
        intro x hx
        rcases mem_write hx with hx | ⟨y, hy, hx⟩
        · rw [hx]
          omega
        · exact hx ▸ hfirst y hy

theorem lookup_write (h : Ascending rows) (r' : Int) : (write r column text rows).lookup r' =
    if r' = r then some (((rows.lookup r).getD Row.empty).set column text) else rows.lookup r' := by
  induction rows with
  | nil =>
    by_cases hr : r' = r
    · rw [write, hr, List.lookup_cons_self, if_pos rfl]
      rfl
    · rw [write, List.lookup_cons, beq_eq_false_iff_ne.2 hr, if_neg hr]
  | cons first rest ih =>
    obtain ⟨n, row⟩ := first
    obtain ⟨hfirst, hrest⟩ := List.pairwise_cons.1 h
    rw [write]
    split
    · rename_i hlt
      have hnone : List.lookup r ((n, row) :: rest) = none :=
        lookup_eq_none (List.forall_mem_cons.2 ⟨hlt, fun x hx => Int.lt_trans hlt (hfirst x hx)⟩)
      by_cases hr : r' = r
      · rw [hnone, hr, List.lookup_cons_self, if_pos rfl, Option.getD_none]
      · rw [List.lookup_cons, beq_eq_false_iff_ne.2 hr, if_neg hr]
    · split
      · rename_i heq
        subst heq
        by_cases hr : r' = r
        · rw [hr, List.lookup_cons_self, List.lookup_cons_self, if_pos rfl, Option.getD_some]
        · simp only [List.lookup_cons, beq_eq_false_iff_ne.2 hr, if_neg hr]
      · rename_i hne
        by_cases hn : r' = n
        · rw [hn, List.lookup_cons_self, List.lookup_cons_self, if_neg (Ne.symm hne)]
        · simp only [List.lookup_cons, beq_eq_false_iff_ne.2 hn, beq_eq_false_iff_ne.2 hne,
            ih hrest]

/-- Writing a cell sets its text and that of no other. -/
theorem textAt_write (h : Ascending rows) (r' : Int) (column' : Column) :
    textAt (write r column text rows) r' column' =
      if r' = r ∧ column' = column then text else textAt rows r' column' := by
  rw [textAt, lookup_write h]
  by_cases hr : r' = r
  · simp only [hr, if_true, true_and, Option.getD_some, Row.get_set]
    rfl
  · simp only [hr, if_false, false_and]
    rfl

/-- Entering an entry writes the cell that its key names, if it is in one of the columns. -/
theorem enter_spec (h : Ascending rows) {entry : String × Json}
    (hcolumns : ∀ r c, Names entry.1 r c → 0 ≤ c) : ∃ next, rows.enter entry = .ok next
      ∧ Ascending next ∧ ∀ r column, textAt next r column =
        if Names entry.1 r column.number then entry.2.display else textAt rows r column := by
  rw [enter]
  cases hkey : numbers? entry.1 with
  | none =>
    refine ⟨rows, rfl, h, ?_⟩
    intro r column
    rw [if_neg fun hnames => ?_]
    rw [numbers?_eq_some_iff.2 hnames] at hkey
    exact absurd hkey (by simp)
  | some cell =>
    obtain ⟨r, c⟩ := cell
    have hnames (r' c' : Int) : Names entry.1 r' c' ↔ r = r' ∧ c = c' := by
      rw [← numbers?_eq_some_iff, hkey, Option.some.injEq, Prod.mk.injEq]
    have hc := hcolumns r c ((hnames r c).2 ⟨rfl, rfl⟩)
    have hnumber : (3 ≤ c ∧ Column.ofNumber c = .ok none)
        ∨ ∃ column, Column.ofNumber c = .ok (some column) ∧ column.number = c := by
      by_cases hbeyond : 3 ≤ c
      · exact .inl ⟨hbeyond, by rw [Column.ofNumber, if_pos hbeyond]⟩
      · obtain rfl | rfl | rfl : c = 0 ∨ c = 1 ∨ c = 2 := by omega
        · exact .inr ⟨.name, rfl, rfl⟩
        · exact .inr ⟨.type, rfl, rfl⟩
        · exact .inr ⟨.description, rfl, rfl⟩
    rcases hnumber with ⟨hbeyond, hnumber⟩ | ⟨column, hnumber, rfl⟩
    · simp only [hnumber]
      refine ⟨rows, rfl, h, ?_⟩
      intro r' column
      rw [if_neg fun hcell => ?_]
      have hlt : column.number < 3 := by cases column <;> decide
      have := ((hnames r' column.number).1 hcell).2
      omega
    · simp only [hnumber]
      refine ⟨_, rfl, ascending_write h, ?_⟩
      intro r' column'
      have hiff : r' = r ∧ column' = column ↔ Names entry.1 r' column'.number := by
        rw [hnames, Column.number_inj, @eq_comm _ r, @eq_comm _ column]
      rw [textAt_write h, if_congr hiff rfl rfl]

end Rows

/-! ### Tables -/

/-- What a run over the entries makes of rows. -/
theorem exists_rows {entries : Json.Members}
    (hcolumns : ∀ e ∈ entries, ∀ r c, Names e.1 r c → 0 ≤ c) {start : Rows}
    (hstart : Rows.Ascending start) : ∃ rs, entries.foldlM Rows.enter start = .ok rs
      ∧ Rows.Ascending rs ∧ ∀ r column, Rows.textAt rs r column =
        ((entries.reverse.find? fun e => Names e.1 r column.number).map fun e =>
          e.2.display).getD (Rows.textAt start r column) := by
  induction entries generalizing start with
  | nil => exact ⟨start, rfl, hstart, fun _ _ => rfl⟩
  | cons e entries ih =>
    obtain ⟨hfirst, hothers⟩ := List.forall_mem_cons.1 hcolumns
    obtain ⟨next, hnext, hascending, htext⟩ := Rows.enter_spec hstart hfirst
    obtain ⟨rs, hrs, hrows, hall⟩ := ih hothers hascending
    refine ⟨rs, ?_, hrows, ?_⟩
    · rw [List.foldlM_cons, hnext]
      exact hrs
    · intro r column
      rw [hall, htext, List.reverse_cons, List.find?_append, List.find?_singleton]
      cases entries.reverse.find? fun e => Names e.1 r column.number with
      | some found => rfl
      | none =>
        rw [Option.none_or]
        by_cases hnames : Names e.1 r column.number <;> simp [hnames]

theorem rows_spec {entries : Json.Members}
    (hcolumns : ∀ e ∈ entries, ∀ r c, Names e.1 r c → 0 ≤ c) : ∃ rs, rows entries = .ok rs
      ∧ Rows.Ascending rs ∧ ∀ r column, Rows.textAt rs r column = cell entries r column.number := by
  obtain ⟨rs, hrs, hascending, htext⟩ :=
    exists_rows hcolumns (List.Pairwise.nil : Rows.Ascending [])
  refine ⟨rs, hrs, hascending, ?_⟩
  intro r column
  rw [htext, cell, Rows.textAt, List.lookup_nil, Option.getD_none, Row.get_empty]

/-- The field of a row that was read, if it has a name. -/
theorem field?_eq {entries : Json.Members} {row : Row} {r : Int}
    (h : ∀ column, row.get column = cell entries r column.number) :
    row.field? = if nameIn entries r = [] then none else some (fieldIn entries r) := by
  have hname : row.name = cell entries r 0 := h .name
  have htype : row.type = cell entries r 1 := h .type
  have hdescription : row.description = cell entries r 2 := h .description
  have hfieldName : row.fieldName = nameIn entries r := by rw [Row.fieldName, hname, nameIn]
  rw [Row.field?, hfieldName, htype, hdescription]
  split
  · rw [if_pos ‹_›]
  · rw [if_neg ‹_›, fieldIn]

/-- A table gives one field for each row with a name, in the order of the row numbers. -/
theorem exists_numbers {entries : Json.Members}
    (hcolumns : ∀ e ∈ entries, ∀ r c, Names e.1 r c → 0 ≤ c) :
    ∃ numbers : List Int, numbers.Pairwise (· < ·)
      ∧ (∀ r, r ∈ numbers ↔ nameIn entries r ≠ [])
      ∧ fields entries = .ok (numbers.map (fieldIn entries)) := by
  obtain ⟨rs, hrs, hascending, htext⟩ := rows_spec hcolumns
  have hrow : ∀ x ∈ rs, x.2.field? =
      if nameIn entries x.1 = [] then none else some (fieldIn entries x.1) := by
    rintro ⟨r, row⟩ hx
    apply field?_eq
    intro column
    rw [← htext, Rows.textAt, Rows.lookup_eq_some hascending hx, Option.getD_some]
  refine ⟨(rs.map Prod.fst).filter (nameIn entries · ≠ []), ?_, ?_, ?_⟩
  · exact (List.pairwise_map.2 hascending).filter _
  · intro r
    rw [List.mem_filter, decide_eq_true_eq, and_iff_right_iff_imp]
    intro hname
    by_contra hnone
    have hlookup : rs.lookup r = none := by
      rw [List.lookup_eq_none_iff]
      intro x hx
      simpa using fun h : r = x.1 => hnone (List.mem_map.2 ⟨x, hx, h.symm⟩)
    have hcell : cell entries r 0 = "" := by
      rw [← show Column.number .name = 0 from rfl, ← htext, Rows.textAt, hlookup]
      rfl
    exact hname (by rw [nameIn, hcell]; rfl)
  · have hnamed (xs : Rows) :
        (xs.filterMap fun x =>
          if nameIn entries x.1 = [] then none else some (fieldIn entries x.1)) =
          ((xs.map Prod.fst).filter (nameIn entries · ≠ [])).map (fieldIn entries) := by
      induction xs with
      | nil => rfl
      | cons x xs ih => by_cases hname : nameIn entries x.1 = [] <;> simp [hname, ih]
    rw [fields, hrs, ← hnamed, ← List.filterMap_congr hrow]
    rfl

/-- The rows with names tell what a table gives. -/
theorem fields_eq_of_numbers {entries : Json.Members}
    (hcolumns : ∀ e ∈ entries, ∀ r c, Names e.1 r c → 0 ≤ c) {numbers : List Int}
    (hascending : numbers.Pairwise (· < ·)) (hmem : ∀ r, r ∈ numbers ↔ nameIn entries r ≠ []) :
    fields entries = .ok (numbers.map (fieldIn entries)) := by
  obtain ⟨others, hothers, hmem', hfields⟩ := exists_numbers hcolumns
  rw [hfields, hascending.eq_of_mem_iff hothers fun r => (hmem r).trans (hmem' r).symm]

/-! ### The order of the entries -/

/-- The keys of two entries name no common cell. -/
def Apart (e e' : String × Json) : Prop := ∀ r c, Names e.1 r c → ¬ Names e'.1 r c

instance (e e' : String × Json) : Decidable (Apart e e') :=
  decidable_of_iff (∀ x ∈ numbers? e.1, ¬ Names e'.1 x.1 x.2)
    (forall_names_iff (P := fun r c => ¬ Names e'.1 r c)).symm

instance : Std.Symm Apart := ⟨fun _ _ h r c hnames hother => h r c hother hnames⟩

/-- Where no cell is named twice, a cell holds the text of the entry that names it. -/
theorem cell_of_mem {entries : Json.Members} (hapart : entries.Pairwise Apart) {e : String × Json}
    (he : e ∈ entries) {r c : Int} (hnames : Names e.1 r c) : cell entries r c = e.2.display := by
  rw [cell]
  cases hfind : entries.reverse.find? fun e => Names e.1 r c with
  | none =>
    rw [List.find?_eq_none] at hfind
    exact absurd (decide_eq_true hnames) (hfind e (List.mem_reverse.2 he))
  | some found =>
    have hfound : Names found.1 r c := by simpa using List.find?_some hfind
    have hmem : found ∈ entries := List.mem_reverse.1 (List.mem_of_find?_eq_some hfind)
    by_cases heq : found = e
    · rw [heq]
      rfl
    · exact absurd hnames (hapart.forall hmem he heq r c hfound)

theorem cell_of_forall_not {entries : Json.Members} {r c : Int}
    (h : ∀ e ∈ entries, ¬ Names e.1 r c) : cell entries r c = "" := by
  have hnone : (entries.reverse.find? fun e => Names e.1 r c) = none := by
    rw [List.find?_eq_none]
    intro e he
    simpa using h e (List.mem_reverse.1 he)
  rw [cell, hnone]
  rfl

/-- Where no cell is named twice, the order of the entries makes no difference. -/
theorem cell_perm {entries entries' : Json.Members} (hperm : entries.Perm entries')
    (hapart : entries.Pairwise Apart) : cell entries' = cell entries := by
  have hapart' : entries'.Pairwise Apart := (hperm.pairwise_iff (Std.Symm.symm _ _)).1 hapart
  funext r c
  by_cases hnamed : ∃ e ∈ entries, Names e.1 r c
  · obtain ⟨e, he, hnames⟩ := hnamed
    rw [cell_of_mem hapart he hnames, cell_of_mem hapart' (hperm.mem_iff.1 he) hnames]
  · have hnone : ∀ e ∈ entries, ¬ Names e.1 r c := fun e he hnames => hnamed ⟨e, he, hnames⟩
    rw [cell_of_forall_not hnone,
      cell_of_forall_not fun e he => hnone e (hperm.mem_iff.2 he)]

/-- A table whose keys count no column from the right is read cell by cell: one field for each row
whose first cell holds a name, in ascending order of the row numbers, with what the cells of the row
say.  The order of the entries makes no difference unless two keys name one cell. -/
theorem fields_by_cells (entries : Json.Members)
    (hcolumns : ∀ e ∈ entries, ∀ r c, Names e.1 r c → 0 ≤ c) :
    (∃ numbers : List Int, numbers.Pairwise (· < ·)
      ∧ (∀ r, r ∈ numbers ↔ nameIn entries r ≠ [])
      ∧ fields entries = .ok (numbers.map (fieldIn entries)))
    ∧ ∀ entries', entries.Perm entries' → entries.Pairwise Apart →
      fields entries' = fields entries := by
  refine ⟨exists_numbers hcolumns, ?_⟩
  intro entries' hperm hapart
  have hcell := cell_perm hperm hapart
  have hname : nameIn entries' = nameIn entries := by
    funext r
    rw [nameIn, nameIn, hcell]
  have hfield : fieldIn entries' = fieldIn entries := by
    funext r
    rw [fieldIn, fieldIn, hname, hcell]
  obtain ⟨numbers, hascending, hmem, hfields⟩ := exists_numbers hcolumns
  rw [hfields, ← hfield]
  exact fields_eq_of_numbers (fun e he => hcolumns e (hperm.mem_iff.2 he)) hascending
    (by rwa [hname])

/-- A table in no order, with a heading and with keys that name no cell. -/
def scattered : Json.Members :=
  [("10-0", .str "b"), ("2-2", .str "x"), ("h-0", .str "Name"), ("2-3", .str "beyond"),
    ("+2-0", .str "\x60a\x60"), ("0-1", .str "string"), ("last-0", .str "c")]

theorem scattered_in_order :
    (∀ e ∈ scattered, ∀ r c, Names e.1 r c → 0 ≤ c)
    ∧ scattered.Perm scattered.reverse ∧ scattered.Pairwise Apart
    ∧ fields scattered.reverse =
      .ok [⟨"a", [.plain "unknown"], true, "x"⟩, ⟨"b", [.plain "unknown"], true, ""⟩] := by
  have hcolumns : ∀ e ∈ scattered, ∀ r c, Names e.1 r c → 0 ≤ c := by
    simp only [forall_names_iff]
    decide
  have hperm : scattered.Perm scattered.reverse := (List.reverse_perm scattered).symm
  have hapart : scattered.Pairwise Apart := by decide
  refine ⟨hcolumns, hperm, hapart, ?_⟩
  rw [(fields_by_cells scattered hcolumns).2 _ hperm hapart]
  rfl

end ClientScribe.Table
