import ClientScribe.Client.Interface
import ClientScribe.Docs.UrlPath

/-!
API modules.  A type that owns requests or an error list has one at `product/apis/Name.ts`, with a
function for each request.
-/

namespace ClientScribe.Client

/-- The HTTP client that the functions call. -/
structure HttpClient where
  /-- The name of its class. -/
  name : String
  /-- Its module, seen from the root of the output. -/
  path : String
deriving DecidableEq, Repr

def HttpClient.usual : HttpClient := ⟨"RapydClient", "../core/RapydClient"⟩

/-- Where the API module of a type is, seen from the root of the output. -/
def apiPath (r : Reference) : String := Path.join (Path.join r.product "apis") (r.name ++ ".ts")

/-- A member that is passed on under its own name. -/
def passedOn (f : TypeField) : String := property f.name ++ ": " ++ access f.name

/-- The statement that gathers the query, if there is one. -/
def queryText : List TypeField → String
  | [] => ""
  | [f] => "  const queryParams = client.queryParams(\x7b " ++ passedOn f ++ " \x7d);\n"
  | fs =>
    "  const queryParams = client.queryParams(\x7b"
      ++ String.join (fs.map fun f => "\n    " ++ passedOn f ++ ",") ++ "\n  \x7d);\n"

/-- The argument that passes the body, if there is one. -/
def bodyText : List TypeField → String
  | [] => ""
  | fs => ", \x7b\n" ++ String.join (fs.map fun f => "    " ++ passedOn f ++ ",\n") ++ "  \x7d"

/-- The statement that sends the request.  The path comes first, then what fills its placeholders
from left to right. -/
def callText (r : Request) : String :=
  "  const response = await client." ++ String.ofList (Text.lower r.method.toList)
    ++ "('" ++ UrlPath.template r.path ++ "'"
    ++ (if r.query.isEmpty then "" else " + queryParams")
    ++ String.join ((UrlPath.placeholders r.path).map fun name => ", " ++ access name)
    ++ bodyText r.body ++ ");\n"

/-- The function of one request of the type `owner`. -/
def functionText (client : HttpClient) (owner error : String) (r : Reference × Request) : String :=
  "export async function " ++ functionName r.1.name ++ "(client: " ++ client.name ++ ", request: "
    ++ r.1.name ++ "): Promise<" ++ owner ++ "> \x7b\n"
    ++ queryText r.2.query ++ callText r.2
    ++ "  return await response.data<" ++ owner ++ ", " ++ error ++ ">();\n\x7d\n"

/-- The import lines of the API module of a type. -/
def apiImports (client : HttpClient) (r : Reference) (children : Children) : List String :=
  [importLine client.name (importPath (Path.join r.product "apis") client.path),
   importLine r.name ("../types/" ++ r.name)]
    ++ (children.enum.toList.map fun e => importLine e.name ("../enums/" ++ e.name))
    ++ children.requests.map fun q => importLine q.1.name ("../requests/" ++ q.1.name)

def apiText (client : HttpClient) (r : Reference) (children : Children) : String :=
  let error := (children.enum.map Reference.name).getD "Error"
  "\n".intercalate (apiImports client r children) ++ "\n"
    ++ String.join (children.requests.map fun q => "\n" ++ functionText client r.name error q)

end ClientScribe.Client
