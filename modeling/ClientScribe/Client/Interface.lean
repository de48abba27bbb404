import ClientScribe.Client.Comment
import ClientScribe.Client.TypeText
import ClientScribe.Path
import ClientScribe.Reference.Merge

/-!
Declaration files.  Every reference has one, at `product/kinds/Name.ts`: an interface for a type or
a request and an enumeration for an error list.  An interface imports what its fields refer to.
-/

namespace ClientScribe.Client

/-- Where the file of a reference is, seen from the root of the output. -/
def referencePath (r : Reference) : String :=
  Path.join (Path.join r.product (r.kind ++ "s")) (r.name ++ ".ts")

/-- An absolute directory so deep that no `..` of the two paths leads out of it. -/
def anchor (directory target : List Char) : List Char :=
  (List.replicate (Text.count ['.', '.'] target + Text.count ['.', '.'] directory + 1)
    ['/', '_']).flatten

/-- How a file in `directory` imports `target`, both seen from the root of the output. -/
def importPath (directory target : String) : String :=
  let base := anchor directory.toList target.toList
  let way := Path.relative (Path.joinChars base directory.toList)
    (Path.joinChars base target.toList)
  let module := (Text.dropEnd? ".ts".toList way).getD way
  String.ofList (if module.head? = some '.' then module else '.' :: '/' :: module)

def importLine (name path : String) : String :=
  "import \x7b " ++ name ++ " \x7d from '" ++ path ++ "';"

/-- The import of a reference in the file of another one; the file itself needs none. -/
def importOf? (own : String) (target : Reference) : Option String :=
  if referencePath target = own then none
  else some (importLine target.name (importPath (Path.directory own) (referencePath target)))

/-- The import lines for what the fields refer to, each once. -/
def importLines (references : List Reference) (own : String) (fields : List TypeField) :
    List String :=
  let ids := fields.flatMap fun f => typeIds f.types
  let lines := ids.filterMap fun id =>
    (Reference.find? id references).bind (importOf? own)
  lines.foldl (fun acc line => if acc.contains line then acc else acc ++ [line]) []

/-- Import lines and the empty line behind them. -/
def importBlock (lines : List String) : String :=
  if lines.isEmpty then "" else "\n".intercalate lines ++ "\n\n"

/-- The comment of a description, if there is one. -/
def commentOf (description : String) : String :=
  if description.isEmpty then "" else comment "  " description

/-- One member of an interface. -/
def memberText (references : List Reference) (f : TypeField) : String :=
  commentOf f.description ++ "  " ++ property f.name ++ (if f.required then "" else "?") ++ ": "
    ++ typeText references f.types ++ ";\n"

def interfaceText (references : List Reference) (r : Reference) (fields : List TypeField) :
    String :=
  importBlock (importLines references (referencePath r) fields)
    ++ "export interface " ++ r.name ++ " \x7b\n"
    ++ String.join ((TypeField.merge fields).map (memberText references))
    ++ "\x7d\n"

/-- One member of an enumeration. -/
def valueText (v : EnumValue) : String :=
  commentOf v.description ++ "  " ++ v.name ++ " = '" ++ v.name ++ "',\n"

def enumText (r : Reference) (values : List EnumValue) : String :=
  "export enum " ++ r.name ++ " \x7b\n" ++ String.join (values.map valueText) ++ "\x7d\n"

/-- The declaration of a reference. -/
def declaration (references : List Reference) (r : Reference) : String :=
  match r.content with
  | .type fields => interfaceText references r fields
  | .enum values => enumText r values
  | .request request => interfaceText references r request.fields

end ClientScribe.Client
