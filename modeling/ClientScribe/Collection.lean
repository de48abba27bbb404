import ClientScribe.Docs.Extraction
import ClientScribe.Docs.Page
import ClientScribe.Schema.Decode

/-!
Collecting the references of products.  Every page of every product is fetched and extracted, and
the results are joined in the order of the products and their pages; of references with one id the
first is kept.  A page that cannot be loaded is noticed and left out.
-/

namespace ClientScribe

/-- A product and the pages that describe it. -/
structure Product where
  id : String
  urls : List String
deriving DecidableEq, Repr

namespace Decode

/-- A product from the members of a record. -/
def productOf {β : Type} [View β] (members : List (String × β)) : Checked Product :=
  .ap (.map Product.mk (required ["id"] text members)) (required ["urls"] (list text) members)

def product {β : Type} [View β] (v : β) : Checked Product := record productOf v

end Decode

/-- The answer to a request for a page. -/
structure Response where
  status : Nat
  reason : String
  body : String
deriving DecidableEq, Repr

/-- The body of an answer that is no error. -/
def Response.page (r : Response) (url : String) : Except String String :=
  if 400 ≤ r.status && r.status < 500 then
    .error s!"{r.status} Client Error: {r.reason} for url: {url}"
  else if 500 ≤ r.status && r.status < 600 then
    .error s!"{r.status} Server Error: {r.reason} for url: {url}"
  else .ok r.body

/-- The world of pages: the answer for a url, or why there is none. -/
abbrev Web := String → Except String Response

inductive CollectionFault where
  | page (crash : PageCrash)
  | extraction (fault : ExtractionFault)
deriving DecidableEq, Repr

/-- The nodes of the page at a url; a page that cannot be loaded has none. -/
def loadPage [Interpreter] (web : Web) (url : String) : Outcome CollectionFault (List DocNode) :=
  match (web url).bind fun r => r.page url with
  | .error why => ⟨[.notLoaded url why], .ok []⟩
  | .ok page =>
    match readPage page with
    | .error crash => .fail (.page crash)
    | .ok (.error fault) => ⟨[.notLoaded url fault.message], .ok []⟩
    | .ok (.ok found) => ⟨found.notices ++ [.loaded found.nodes.length url], .ok found.nodes⟩

/-- The references of one page of a product. -/
def collectPage [Interpreter] (web : Web) (rules : ExtractionRules) (job : String × String) :
    Outcome CollectionFault (List Reference) :=
  (loadPage web job.2).andThen fun nodes =>
    (Outcome.forEach (fun n => n.extract rules job.1 none) nodes).mapFault .extraction

/-- The pages to fetch, each with the id of its product. -/
def Product.jobs (products : List Product) : List (String × String) :=
  products.flatMap fun p => p.urls.map fun url => (p.id, url)

/-- The first reference of every id, with a notice for each one that is left out; the ids in `seen`
are taken. -/
def Reference.uniqueFrom (seen : List String) : List Reference → List Reference × List Notice
  | [] => ([], [])
  | r :: rs =>
    if seen.contains r.id then
      let (kept, notices) := Reference.uniqueFrom seen rs
      (kept, .duplicate r.id :: notices)
    else
      let (kept, notices) := Reference.uniqueFrom (r.id :: seen) rs
      (r :: kept, notices)

def Reference.unique (rs : List Reference) : List Reference × List Notice :=
  Reference.uniqueFrom [] rs

/-- The references of all products. -/
def collect [Interpreter] (web : Web) (rules : ExtractionRules) (products : List Product) :
    Outcome CollectionFault (List Reference) :=
  (Outcome.forEach (collectPage web rules) (Product.jobs products)).andThen fun rs =>
    let (kept, notices) := Reference.unique rs
    ⟨notices, .ok kept⟩

end ClientScribe
