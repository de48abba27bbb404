import ClientScribe.Inference.Refine
import ClientScribe.Json.Display
import ClientScribe.Text.Integer

/-!
Tables of fields.  A table is an object whose keys name cells: `2-0` is the first column of row 2,
and row `h` is the heading.  Rows come in the order of their numbers and the columns are name, type
and description; a cell that is written twice holds what was written last.
-/

namespace ClientScribe.Table

inductive Column where
  | name
  | type
  | description
deriving DecidableEq, Repr

/-- The text of the cells of one row; a cell that is not there is empty. -/
structure Row where
  name : String
  type : String
  description : String
deriving DecidableEq, Repr

def Row.empty : Row := ⟨"", "", ""⟩

def Row.set (row : Row) (column : Column) (text : String) : Row :=
  match column with
  | .name => { row with name := text }
  | .type => { row with type := text }
  | .description => { row with description := text }

/-- A key counts a column further to the left than the first. -/
inductive Fault where
  | columnOutOfRange
deriving DecidableEq, Repr

def Fault.message : Fault → String
  | .columnOutOfRange => "tuple index out of range"

/-- The column with a number.  Negative numbers count from the last column; there is nothing to
read beyond it. -/
def Column.ofNumber (n : Int) : Except Fault (Option Column) :=
  if 3 ≤ n then .ok none
  else if n = 0 || n = -3 then .ok (some .name)
  else if n = 1 || n = -2 then .ok (some .type)
  else if n = 2 || n = -1 then .ok (some .description)
  else .error .columnOutOfRange

/-- The row and the column numbers of a key, which has a hyphen between them. -/
def numbers? (key : String) : Option (Int × Int) :=
  let cs := key.toList
  let row := cs.takeWhile (· ≠ '-')
  if row = ['h'] then none
  else do
    let r ← Text.integer? row
    let c ← Text.integer? ((cs.dropWhile (· ≠ '-')).drop 1)
    return (r, c)

/-- Rows by their numbers, in ascending order. -/
abbrev Rows := List (Int × Row)

/-- Writes a cell. -/
def Rows.write (r : Int) (column : Column) (text : String) : Rows → Rows
  | [] => [(r, Row.empty.set column text)]
  | (n, row) :: rest =>
    if r < n then (r, Row.empty.set column text) :: (n, row) :: rest
    else if r = n then (n, row.set column text) :: rest
    else (n, row) :: Rows.write r column text rest

/-- Writes the cell that an entry describes, if it describes one. -/
def Rows.enter (rows : Rows) (entry : String × Json) : Except Fault Rows :=
  match numbers? entry.1 with
  | none => .ok rows
  | some (r, c) =>
    match Column.ofNumber c with
    | .error fault => .error fault
    | .ok none => .ok rows
    | .ok (some column) => .ok (rows.write r column entry.2.display)

/-- The rows of a table. -/
def rows (entries : Json.Members) : Except Fault Rows := entries.foldlM Rows.enter []

/-- The name of a field stands in code quotes or without. -/
def Row.fieldName (row : Row) : List Char := Text.trim (row.name.toList.filter (· ≠ '\x60'))

/-- The field of a row that has a name. -/
def Row.field? (row : Row) : Option TypeField :=
  match row.fieldName with
  | [] => none
  | name =>
    some ⟨String.ofList name, TypeNode.infer row.type row.description, true, row.description⟩

/-- The fields of a table, row by row. -/
def fields (entries : Json.Members) : Except Fault (List TypeField) :=
  (rows entries).map fun rs => rs.filterMap fun r => r.2.field?

end ClientScribe.Table
