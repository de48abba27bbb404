import ClientScribe.Json.Display
import ClientScribe.Schema.Issue

/-!
What is worth telling while documents are read.  A notice says what happened; nothing but its text
depends on the wording.
-/

namespace ClientScribe

inductive Level where
  | debug
  | info
  | warning
deriving DecidableEq, Repr

def Level.name : Level → String
  | .debug => "DEBUG"
  | .info => "INFO"
  | .warning => "WARNING"

/-- Why a parameters block gives no table. -/
inductive BlockFault where
  | notJson (why : String)
  | notObject
  | dataNotObject
deriving DecidableEq, Repr

def BlockFault.message : BlockFault → String
  | .notJson why => why
  | .notObject => "not an object"
  | .dataNotObject => "data is not an object"

inductive Notice where
  | noBlock (title : String)
  | badBlock (title : String) (fault : BlockFault)
  | ownerlessErrors (title : String)
  | ownerlessEndpoint (title : String)
  | noMetadata (title : String)
  | unknownPage (tag title : String)
  | badNode (title : Json) (issues : List Issue)
  | loaded (nodes : Nat) (url : String)
  | notLoaded (url why : String)
  | duplicate (id : String)

def Notice.level : Notice → Level
  | .noBlock _ | .ownerlessErrors _ | .ownerlessEndpoint _ => .debug
  | .loaded _ _ => .info
  | _ => .warning

/-- A text in quotes. -/
def quote (s : String) : String := String.ofList (Text.quoted s.toList)

def Notice.message : Notice → String
  | .noBlock title => s!"Type {quote title} has no parameters block."
  | .badBlock title fault => s!"Malformed parameters block in {quote title}: {fault.message}"
  | .ownerlessErrors title => s!"Skipping error list {quote title} without an owning type."
  | .ownerlessEndpoint title => s!"Skipping endpoint {quote title} without an owning type."
  | .noMetadata title => s!"Endpoint {quote title} has no API metadata, skipping."
  | .unknownPage tag title => s!"Unknown reference type of \"{tag}\" with title \"{title}\"."
  | .badNode title issues =>
    s!"Skipping malformed documentation node {String.ofList title.inspect}: {Issue.summary issues}"
  | .loaded nodes url => s!"Loaded {nodes} documentation nodes from {url}"
  | .notLoaded url why => s!"Failed to load {url}: {why}"
  | .duplicate id => s!"Duplicate reference id {quote id}, keeping the first one."

def Notice.text (n : Notice) : String := s!"{n.level.name}: {n.message}"

end ClientScribe
