import ClientScribe.Docs.Body
import ClientScribe.Docs.Node
import ClientScribe.Docs.Title
import ClientScribe.Docs.UrlPath
import ClientScribe.Outcome
import ClientScribe.Reference.Override

/-!
Extraction of references from a documentation tree.  The pages that count are visited in pre-order:
the root, and the child pages of every type definition that is visited, which owns them.  Each visit
gives at most one reference and at most one notice.
-/

namespace ClientScribe

/-- What an extraction is told apart from the documents. -/
structure ExtractionRules where
  overrides : Overrides
  /-- Product names that titles end in. -/
  products : List String

/-- The product names that are cut from titles unless others are given. -/
def ExtractionRules.usualProducts : List String := ["Collect", "Disburse", "Wallet", "Issuing"]

/-- Why an extraction has to be given up. -/
inductive ExtractionFault where
  | excess (e : Json.Excess)
  | table (fault : Table.Fault)
  | override (issues : List Issue)
deriving DecidableEq, Repr

abbrev Extracted := Outcome ExtractionFault

/-- A page with its clean title, and the slug of the type page above it. -/
structure Visit where
  page : DocNode
  owner : Option String

def Visit.topic (v : Visit) : Topic := Topic.of v.page.tag v.page.title

mutual

/-- The visits to a page and to those below it. -/
def DocNode.visits (products : List String) (owner : Option String) : DocNode → List Visit
  | ⟨title, slug, tag, body, excerpt, endpoint, children⟩ =>
    let title := Title.clean products title
    ⟨⟨title, slug, tag, body, excerpt, endpoint, children⟩, owner⟩ ::
      (if Topic.of tag title = .typeDefinition then
        DocNode.visitsOfAll products (some slug) children
       else [])

def DocNode.visitsOfAll (products : List String) (owner : Option String) :
    List DocNode → List Visit
  | [] => []
  | p :: ps => DocNode.visits products owner p ++ DocNode.visitsOfAll products owner ps

end

/-- Headers that the client sets by itself. -/
def signingHeaders : List String :=
  ["access_key", "salt", "signature", "timestamp", "idempotency", "content-type", "content_type"]

/-- Whether callers supply a header. -/
def Param.isSupplied (p : Param) : Bool :=
  !signingHeaders.contains (String.ofList (Text.lower p.name.toList))

def Param.field (p : Param) : TypeField :=
  ⟨p.name, TypeNode.infer p.type p.description, p.required, p.description⟩

/-- The parameters that go to one place. -/
def Endpoint.paramsIn (e : Endpoint) (place : String) : List Param :=
  e.params.filter fun p => p.place == place

/-- The request of an endpoint.  A path cannot leave out what its placeholders stand for, so path
parameters are required whatever the document says. -/
def Endpoint.request (e : Endpoint) : Request :=
  { method := String.ofList (Text.upper e.method.toList)
    path := UrlPath.ofUrl e.url
    params := (e.paramsIn "path").map fun p => { p.field with required := true }
    body := (e.paramsIn "body").map Param.field
    query := (e.paramsIn "query").map Param.field
    headers := ((e.paramsIn "header").filter Param.isSupplied).map Param.field }

/-- The reference of a visit, before overrides. -/
def Visit.reference (product : String) (v : Visit) (parent : Option String) (name : String)
    (content : Content) : Reference :=
  ⟨product, parent, v.page.slug, name, v.page.excerpt, content⟩

/-- A notice and no reference. -/
def Notice.instead (notice : Notice) : Extracted (Option Reference) := ⟨[notice], .ok none⟩

/-- The reference with its override. -/
def Reference.finish (overrides : Overrides) (r : Reference) : Extracted (Option Reference) :=
  match r.override overrides with
  | .ok r => .done (some r)
  | .rejected issues => .fail (.override issues)

/-- The owner of a page; an empty slug owns nothing. -/
def Visit.owner? (v : Visit) : Option String := v.owner.filter fun slug => !slug.isEmpty

def Visit.extractType [Interpreter] (rules : ExtractionRules) (product : String) (v : Visit) :
    Extracted (Option Reference) :=
  match Body.block? v.page.body with
  | none => (Notice.noBlock v.page.title).instead
  | some block =>
    match Body.cells block with
    | .error e => .fail (.excess e)
    | .ok (.error fault) => (Notice.badBlock v.page.title fault).instead
    | .ok (.ok entries) =>
      match Table.fields entries with
      | .error fault => .fail (.table fault)
      | .ok fields =>
        let name := Title.typeName v.page.title
        (v.reference product none name (.type fields)).finish rules.overrides

/-- What a visit gives. -/
def Visit.extract [Interpreter] (rules : ExtractionRules) (product : String) (v : Visit) :
    Extracted (Option Reference) :=
  match v.topic with
  | .typeDefinition => v.extractType rules product
  | .errorList =>
    match v.owner? with
    | none => (Notice.ownerlessErrors v.page.title).instead
    | some owner =>
      (v.reference product (some owner) (Title.enumName v.page.title)
        (.enum (Body.errors v.page.body))).finish rules.overrides
  | .endpoint =>
    match v.owner?, v.page.endpoint with
    | none, _ => (Notice.ownerlessEndpoint v.page.title).instead
    | some _, none => (Notice.noMetadata v.page.title).instead
    | some owner, some endpoint =>
      (v.reference product (some owner) (Title.requestName v.page.title)
        (.request endpoint.request)).finish rules.overrides
  | .sequence | .webhook => .done none
  | .unrecognized => (Notice.unknownPage v.page.tag v.page.title).instead

/-- The references of a page and of those below it, in pre-order. -/
def DocNode.extract [Interpreter] (rules : ExtractionRules) (product : String)
    (owner : Option String) (page : DocNode) : Extracted (List Reference) :=
  Outcome.forEach (fun v => (v.extract rules product).map Option.toList)
    (page.visits rules.products owner)

end ClientScribe
