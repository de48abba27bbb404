import ClientScribe.Collection
import ClientScribe.Disk.Basic
import ClientScribe.Reference.Override
import ClientScribe.Text.Utf8
import ClientScribe.Yaml.Document

/-!
Configuration files: the products to read and the overrides to apply.  Both are YAML documents.
-/

namespace ClientScribe

/-- What a user is told of a fault that the program expects. -/
structure Complaint where
  text : String
  /-- The reason in the words of the reader or the check that found it. -/
  detail : Option String
deriving DecidableEq, Repr

namespace Complaint

/-- A complaint that says everything. -/
def plain (text : String) : Complaint := ⟨text, none⟩

def message (c : Complaint) : String :=
  match c.detail with
  | none => c.text
  | some detail => s!"{c.text}: {detail}"

end Complaint

inductive ConfigFault where
  | unreadable (fault : PathFault)
  /-- The bytes are no text. -/
  | notText
  | document (fault : Yaml.Fault)
  | noProducts
  | productNotRecord
  | badProduct (issues : List Issue)
  | noOverrides
deriving DecidableEq, Repr

/-- What a user is told of a fault in a file.  Bytes that are no text, and numbers, dates and the
like that do not exist, are not expected in configuration files: of them nothing is told. -/
def ConfigFault.complaint? (file : String) : ConfigFault → Option Complaint
  | .unreadable fault => some (.plain s!"Cannot read {file}: {fault.message}")
  | .notText => none
  | .document .malformed => some ⟨s!"Cannot parse {file}", some Yaml.Fault.malformed.message⟩
  | .document _ => none
  | .noProducts => some (.plain s!"{file}: expected a list of products")
  | .productNotRecord =>
    some ⟨s!"{file}: invalid product entry", some "a product is a mapping whose keys are texts"⟩
  | .badProduct issues => some ⟨s!"{file}: invalid product entry", some (Issue.summary issues)⟩
  | .noOverrides =>
    some (.plain s!"{file}: expected a mapping of reference id to patch object")

namespace Config

/-- What a file holds, or why it cannot be read. -/
abbrev Source := Except PathFault ByteArray

def document [Interpreter] : Source → Except ConfigFault Yaml.Document
  | .error fault => .error (.unreadable fault)
  | .ok bytes =>
    match Text.ofBytes? bytes with
    | none => .error .notText
    | some text => (Yaml.Document.read text).mapError .document

/-! ### Products -/

/-- The members of a value that is a mapping and whose keys are all texts. -/
def members? : Yaml.Item → Option (List (String × Yaml.Item))
  | .pair => none
  | .value d i =>
    (d.entries? i).bind fun es => es.mapM fun e => (d.text? e.1).map fun s => (s, .value d e.2)

def product (item : Yaml.Item) : Except ConfigFault Product :=
  match members? item with
  | none => .error .productNotRecord
  | some members =>
    match Decode.productOf members with
    | .ok p => .ok p
    | .rejected issues => .error (.badProduct issues)

/-- The items of a list; a set is none. -/
def items? (d : Yaml.Document) (i : Nat) : Option (List Yaml.Item) :=
  match d.values[i]? with
  | some (.list items) => some (items.map (.value d))
  | some (.pairs items) => some (items.map fun _ => .pair)
  | _ => none

/-- The list of products in a document: the document itself, or what it holds for `products`. -/
def productList? (d : Yaml.Document) : Option (List Yaml.Item) :=
  match d.entries? d.root with
  | none => items? d d.root
  | some es => (es.find? fun e => d.text? e.1 = some "products").bind fun e => items? d e.2

/-- The products that a file lists. -/
def products [Interpreter] (source : Source) : Except ConfigFault (List Product) := do
  match productList? (← document source) with
  | some items => items.mapM product
  | none => .error .noProducts

/-! ### Overrides -/

/-- Patches in a document, each by the nodes of its key and of its members. -/
structure Patches where
  document : Yaml.Document
  entries : List (Nat × Nat)

/-- The patches in a document, by whatever keys it has: all its values are mappings. -/
def patches? (d : Yaml.Document) : Option Patches :=
  match d.values[d.root]? with
  | some (.atom .null) => some ⟨d, []⟩
  | some (.map es) => if es.all fun e => (d.entries? e.2).isSome then some ⟨d, es⟩ else none
  | _ => none

/-- The patches that a file holds; without a file there are none. -/
def patches [Interpreter] : Option Source → Except ConfigFault Patches
  | none => .ok ⟨.null, []⟩
  | some source => do
    match patches? (← document source) with
    | some ps => return ps
    | none => .error .noOverrides

/-- The overrides among patches: those whose keys are texts. -/
def Patches.overrides (ps : Patches) : Overrides :=
  ps.entries.filterMap fun e =>
    match ps.document.text? e.1, ps.document.shape e.2 with
    | some id, .record members => some (id, Patch.ofMembers members)
    | _, _ => none

def overrides [Interpreter] (source : Option Source) : Except ConfigFault Overrides :=
  (patches source).map Patches.overrides

end Config

end ClientScribe
