import ClientScribe.Text.Utf8
import ClientScribe.Yaml.Build
import ClientScribe.Yaml.Layout
import ClientScribe.Yaml.Reading

/-!
Reading a document: its text is cut into tokens, the tokens make a graph of nodes, and the nodes
have values.  A text holds one document at most; without one its value is null.
-/

namespace ClientScribe.Yaml

/-- Whether a character may stand in a document. -/
def isAllowed (c : Char) : Bool :=
  c = '\t' || c = '\n' || c = '\r' || c = '\x85' || (0x20 ≤ c.toNat && c.toNat ≤ 0x7E)
    || (0xA0 ≤ c.toNat && c.toNat ≤ 0xD7FF) || (0xE000 ≤ c.toNat && c.toNat ≤ 0xFFFD)
    || 0x10000 ≤ c.toNat

namespace Document

/-- The document in a text in which every line end is one character. -/
def ofLines [Interpreter] (text : List Char) : Except Fault Document := do
  if text.all isAllowed then
    let (g, root) ← Graph.ofTokens (tokens text)
    match root with
    | some i => ofGraph g i
    | none => return null
  else .error .malformed

/-- The document in a text. -/
def read [Interpreter] (text : String) : Except Fault Document :=
  ofLines (Text.unifyLineEnds text.toList)

end Document

end ClientScribe.Yaml
