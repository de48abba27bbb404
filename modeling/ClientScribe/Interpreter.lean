/-!
Readers that call themselves for each value inside another one come to an end where the interpreter
has too many open calls.  How many calls are open when a text is read depends on who asks for it, so
what is left to a reader is no property of the reader.
-/

namespace ClientScribe

/-- How many calls may be open at a time. -/
def recursionLimit : Nat := 1000

/-- What the recursion limit leaves to readers that call themselves. -/
class Interpreter where
  /-- How many arrays and objects may be inside each other where JSON text is read. -/
  jsonDepth : Nat
  /-- How many nodes may be inside each other where a document is read. -/
  documentDepth : Nat
  /-- Each array and each object takes a call, and some calls are open before. -/
  jsonDepth_lt : jsonDepth < recursionLimit
  /-- The calls that are open before leave room for an object in an object. -/
  two_le_jsonDepth : 2 ≤ jsonDepth
  /-- A node takes more calls than an array does. -/
  documentDepth_le : documentDepth ≤ jsonDepth

/-- What is left to readers that are called from fifteen open calls. -/
instance Interpreter.shallow : Interpreter where
  jsonDepth := 985
  documentDepth := 490
  jsonDepth_lt := by decide
  two_le_jsonDepth := by decide
  documentDepth_le := by decide

end ClientScribe
