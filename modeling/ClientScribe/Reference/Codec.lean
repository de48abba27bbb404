import ClientScribe.Json.Reader
import ClientScribe.Json.Writer
import ClientScribe.Reference.Basic
import ClientScribe.Schema.Decode

/-!
References as JSON.  Absent refinements are left out when a reference is written; when one is read,
an absent member and a null one are the same, and a member may have a second spelling.
-/

namespace ClientScribe

/-- A member that is left out when there is nothing to write. -/
def Json.member? (key : String) : Option Json → Json.Members
  | none => []
  | some v => [(key, v)]

def Json.text? (key : String) (s : Option String) : Json.Members :=
  Json.member? key (s.map Json.str)

mutual

def TypeNode.toJson : TypeNode → Json
  | ⟨tag, startsWith, possibleValues, fields, id, arrayTypes⟩ =>
    .obj (("type", .str tag) :: Json.text? "startsWith" startsWith
      ++ Json.member? "possibleValues" (possibleValues.map fun vs => .arr (vs.map .str))
      ++ Json.member? "fields" (TypeField.toJson? fields)
      ++ Json.text? "id" id
      ++ Json.member? "arrayTypes" (TypeNode.toJson? arrayTypes))

def TypeNode.toJson? : Option (List TypeNode) → Option Json
  | none => none
  | some ts => some (.arr (TypeNode.listToJson ts))

def TypeNode.listToJson : List TypeNode → List Json
  | [] => []
  | t :: ts => t.toJson :: TypeNode.listToJson ts

def TypeField.toJson : TypeField → Json
  | ⟨name, types, required, description⟩ =>
    .obj [("name", .str name), ("type", .arr (TypeNode.listToJson types)),
      ("required", .bool required), ("description", .str description)]

def TypeField.toJson? : Option (List TypeField) → Option Json
  | none => none
  | some fs => some (.arr (TypeField.listToJson fs))

def TypeField.listToJson : List TypeField → List Json
  | [] => []
  | f :: fs => f.toJson :: TypeField.listToJson fs

end

def EnumValue.toJson (v : EnumValue) : Json :=
  .obj [("name", .str v.name), ("description", .str v.description)]

/-- The members that only references of one kind have. -/
def Content.toMembers : Content → Json.Members
  | .type fields => [("fields", .arr (TypeField.listToJson fields))]
  | .enum values => [("values", .arr (values.map EnumValue.toJson))]
  | .request r =>
    [("method", .str r.method), ("path", .str r.path),
     ("params", .arr (TypeField.listToJson r.params)),
     ("body", .arr (TypeField.listToJson r.body)),
     ("query", .arr (TypeField.listToJson r.query)),
     ("headers", .arr (TypeField.listToJson r.headers))]

def Reference.toMembers (r : Reference) : Json.Members :=
  ("product", .str r.product) :: Json.text? "parent" r.parent
    ++ [("id", .str r.id), ("name", .str r.name), ("description", .str r.description),
        ("kind", .str r.kind)]
    ++ r.content.toMembers

def Reference.toJson (r : Reference) : Json := .obj r.toMembers

/-- The interchange text of references: one member a line, and a line break at the end.  Types that
are too deep inside others to be written are left aside here: collected references have none. -/
def Reference.dump (rs : List Reference) : String :=
  (Json.arr (rs.map Reference.toJson)).pretty ++ "\n"

namespace Decode

open View (shape)

variable {β : Type} [View β]

mutual

/-- A type inside others, with no more than `room` types and fields inside each other from here
on. -/
def typeNode : (room : Nat) → Around → β → Checked TypeNode
  | 0, _, _ => .refuse .endless
  | room + 1, around, v =>
    nested .type (fun around members =>
      Checked.ap (Checked.ap (Checked.ap (Checked.ap (Checked.ap (Checked.map TypeNode.mk
        (required ["type"] text members))
        (optional ["startsWith", "starts_with"] none (nullable text) members))
        (optional ["possibleValues", "possible_values"] none (nullable (list text)) members))
        (optional ["fields"] none (nullable (list (typeField room around))) members))
        (optional ["id"] none (nullable text) members))
        (optional ["arrayTypes", "array_types"] none (nullable (list (typeNode room around)))
          members)) around v

/-- A field inside others. -/
def typeField : (room : Nat) → Around → β → Checked TypeField
  | 0, _, _ => .refuse .endless
  | room + 1, around, v =>
    nested .field (fun around members =>
      Checked.ap (Checked.ap (Checked.ap (Checked.map TypeField.mk
        (required ["name"] text members))
        (required ["type", "types"] (list (typeNode room around)) members))
        (optional ["required"] true flag members))
        (optional ["description"] "" text members)) around v

end

def types (v : β) : Checked (List TypeNode) := list (typeNode maxNesting []) v

def fields (v : β) : Checked (List TypeField) := list (typeField maxNesting []) v

def enumValue (v : β) : Checked EnumValue :=
  record (fun members =>
    Checked.ap (Checked.map EnumValue.mk
      (required ["name"] text members))
      (optional ["description"] "" text members)) v

def request (members : List (String × β)) : Checked Request :=
  Checked.ap (Checked.ap (Checked.ap (Checked.ap (Checked.ap (Checked.map Request.mk
    (required ["method"] text members))
    (required ["path"] text members))
    (optional ["params"] [] fields members))
    (optional ["body"] [] fields members))
    (optional ["query"] [] fields members))
    (optional ["headers"] [] fields members)

/-- The kinds of a reference. -/
inductive Kind where
  | type
  | enum
  | request

def kind? : String → Option Kind
  | "type" => some .type
  | "enum" => some .enum
  | "request" => some .request
  | _ => none

def content (members : List (String × β)) : Kind → Checked Content
  | .type => (optional ["fields"] [] fields members).map .type
  | .enum => (optional ["values"] [] (list enumValue) members).map .enum
  | .request => (request members).map .request

/-- The members of a reference whose kind is known. -/
def referenceOf (kind : Kind) (members : List (String × β)) : Checked Reference :=
  Checked.ap (Checked.ap (Checked.ap (Checked.ap (Checked.ap (Checked.map Reference.mk
    (required ["product"] text members))
    (optional ["parent"] none (nullable text) members))
    (required ["id"] text members))
    (required ["name"] text members))
    (optional ["description"] "" text members))
    (content members kind)

/-- The kind that a value names.  Bytes name none. -/
def kindOf (v : β) : Checked (String × Kind) :=
  match shape v with
  | .text name =>
    match kind? name with
    | some kind => .ok (name, kind)
    | none => .refuse .unknownKind
  | _ => .refuse .unknownKind

/-- A reference, by its members, is checked by the rules of its kind, and the kind is the first step
of the path to every issue. -/
def referenceFrom (members : List (String × β)) : Checked Reference :=
  match members.lookup "kind" with
  | none => .refuse .noKind
  | some v =>
    match kindOf v with
    | .ok (name, kind) => (referenceOf kind members).under (.key name)
    | .rejected issues => .rejected issues

def reference (v : β) : Checked Reference :=
  match shape v with
  | .record members => referenceFrom members
  | _ => .refuse .notReference

def references (v : β) : Checked (List Reference) := list reference v

end Decode

/-- Reads an interchange text. -/
def Reference.load (text : String) : Checked (List Reference) :=
  match Json.readStrict text with
  | .ok v => Decode.references (Json.Written.mk v)
  | .error _ => .refuse .notJson

end ClientScribe
