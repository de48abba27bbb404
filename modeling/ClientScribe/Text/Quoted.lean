import ClientScribe.Text.Hex
import ClientScribe.Text.Printable
import ClientScribe.Text.Surrogate

/-!
Quoted text for messages.  The quote is `'` unless the text holds `'` and no `"`; the quote itself,
the backslash, line breaks, tabs and all characters that are not printable are escaped.
-/

namespace ClientScribe.Text

/-- The shortest escape that holds the code. -/
def codeEscape (c : Char) : List Char :=
  let n := (half? c).getD c.toNat
  if n ≤ 0xFF then '\\' :: 'x' :: hex 2 n
  else if n ≤ 0xFFFF then '\\' :: 'u' :: hex 4 n
  else '\\' :: 'U' :: hex 8 n

/-- One character inside the given quotes. -/
def quotedChar (quote c : Char) : List Char :=
  if c = quote || c = '\\' then ['\\', c]
  else if c = '\t' then ['\\', 't']
  else if c = '\n' then ['\\', 'n']
  else if c = '\r' then ['\\', 'r']
  else if isPrintable c then [c]
  else codeEscape c

def quoteFor (s : List Char) : Char := if s.contains '\'' && !s.contains '"' then '"' else '\''

def quoted (s : List Char) : List Char :=
  quoteFor s :: s.flatMap (quotedChar (quoteFor s)) ++ [quoteFor s]

example : quoted ['i', 't', '\'', 's'] = ['"', 'i', 't', '\'', 's', '"'] := by decide

end ClientScribe.Text
