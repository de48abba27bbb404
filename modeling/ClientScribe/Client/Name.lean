import ClientScribe.Text.Case
import ClientScribe.Text.Search
import ClientScribe.Text.Word

/-!
Names in TypeScript sources: how a member is declared and read, and what functions are called.
-/

namespace ClientScribe.Client

def isIdentifierStart (c : Char) : Bool := c.isAlpha || c = '_' || c = '$'

def isIdentifierPart (c : Char) : Bool := Text.isWord c || c = '$'

/-- An ASCII letter, `_` or `$`, followed by word characters and `$`. -/
def isPlainIdentifier : List Char → Bool
  | [] => false
  | c :: s => isIdentifierStart c && s.all isIdentifierPart

/-- Whether a name may stand without quotes; a line break at its end does not count. -/
def isIdentifier (name : String) : Bool :=
  isPlainIdentifier name.toList ||
    ((Text.dropEnd? ['\n'] name.toList).map isPlainIdentifier).getD false

/-- A member as it is declared. -/
def property (name : String) : String := if isIdentifier name then name else s!"'{name}'"

/-- A member of the request as it is read. -/
def access (name : String) : String :=
  if isIdentifier name then s!"request.{name}" else s!"request['{name}']"

/-- The function that sends a request: `GetCustomerRequest` is sent by `getCustomer`. -/
def functionName (request : String) : String :=
  match Text.dropMarker "Request".toList request.toList with
  | [] => ""
  | c :: s => String.ofList (Text.lowerChar c ++ s)

end ClientScribe.Client
