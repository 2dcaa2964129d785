import DeployScript.Text.Encoding
import DeployScript.Text.Printable

/-!
# Quoted names

A file name inside an error text is quoted so that every character of it can be seen: in single
quotes, or in double quotes if it holds a single quote and no double one. Characters that cannot be
printed are written by their code point.
-/

namespace DeployScript.Text

/-- The quote that surrounds a text: the double one only if it saves escaping a single one. -/
def quoteMark (t : Text) : Char := if t.contains '\'' && !t.contains '"' then '"' else '\''

def escapeChar (mark c : Char) : List Char :=
  if c = mark ∨ c = '\\' then ['\\', c]
  else if c = '\t' then ['\\', 't']
  else if c = '\n' then ['\\', 'n']
  else if c = '\r' then ['\\', 'r']
  else if isPrintable c then [c]
  else if c.toNat ≤ 0xff then '\\' :: 'x' :: toHex 2 c.toNat
  else if c.toNat ≤ 0xffff then '\\' :: 'u' :: toHex 4 c.toNat
  else '\\' :: 'U' :: toHex 8 c.toNat

def escapePoint (mark : Char) : CodePoint → List Char
  | .char c => escapeChar mark c
  | .half offset => (CodePoint.half offset).shown

/-- The text between quotes, with what cannot be printed escaped. -/
def quoted (t : Text) : String :=
  let mark := quoteMark t
  String.ofList (mark :: (t.flatMap (escapePoint mark) ++ [mark]))

end DeployScript.Text
