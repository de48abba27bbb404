import ClientScribe.Client.Api

/-!
The files of a client, by their paths from the root of the output, in the order in which the paths
first arise.  A path that is written again keeps its place and takes the later content.
-/

namespace ClientScribe.Client

/-- Contents by path. -/
abbrev Files := List (String × String)

def Files.write (path content : String) : Files → Files
  | [] => [(path, content)]
  | (p, c) :: rest =>
    if p = path then (p, content) :: rest else (p, c) :: Files.write path content rest

/-- The files that a reference gives: its declaration, and the API module of a type that owns
something. -/
def filesOf (client : HttpClient) (references : List Reference) (r : Reference) : Files :=
  (referencePath r, declaration references r) ::
    match r.content with
    | .type _ =>
      let children := Reference.children (some r.id) references
      if children.isEmpty then [] else [(apiPath r, apiText client r children)]
    | _ => []

/-- All files of a client. -/
def files (client : HttpClient) (references : List Reference) : Files :=
  (references.flatMap (filesOf client references)).foldl (fun fs f => Files.write f.1 f.2 fs) []

end ClientScribe.Client
