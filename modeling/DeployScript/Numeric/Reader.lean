import DeployScript.Numeric.Binary64
import DeployScript.Text.Digit
import DeployScript.Text.Space

/-!
# Reading numbers

A number may be written with a sign, digits before and after a point, of which at least one is
needed, and an exponent; or as one of the words for infinity and for no number. A text may have
white space around such a number. Where it has none, it may have underscores in it, apart from each
other and from its ends.
-/

namespace DeployScript.Numeric.Binary64

open DeployScript.Text (dropEnds isWhite ofDigits)

def signPart : List Char → Bool × List Char
  | '-' :: rest => (true, rest)
  | '+' :: rest => (false, rest)
  | rest => (false, rest)

def exponentOf? (cs : List Char) : Option Int :=
  match cs with
  | [] => some 0
  | e :: rest =>
    if e = 'e' ∨ e = 'E' then
      let (negative, digits) := signPart rest
      if !digits.isEmpty && digits.all Char.isDigit then
        some (if negative then -(ofDigits digits : Int) else ofDigits digits)
      else none
    else none

def words (negative : Bool) : List (String × Binary64) :=
  [("inf", .infinite negative), ("infinity", .infinite negative), ("nan", .nan)]

def ofUnsigned? (negative : Bool) (cs : List Char) : Option Binary64 :=
  match (words negative).lookup (String.ofList (cs.map Char.toLower)) with
  | some x => some x
  | none =>
    let (whole, afterWhole) := cs.span Char.isDigit
    let (fraction, rest) := match afterWhole with
      | '.' :: r => r.span Char.isDigit
      | r => ([], r)
    if whole.isEmpty && fraction.isEmpty then none
    else (exponentOf? rest).map fun e =>
      ofDecimal negative (ofDigits (whole ++ fraction)) (e - fraction.length)

def ofChars? (cs : List Char) : Option Binary64 :=
  let (negative, unsigned) := signPart cs
  ofUnsigned? negative unsigned

def hasDoubleUnderscore : List Char → Bool
  | '_' :: '_' :: _ => true
  | _ :: rest => hasDoubleUnderscore rest
  | [] => false

/-- The text without its underscores; none may be at an end or next to another. -/
def dropUnderscores? (cs : List Char) : Option (List Char) :=
  if cs.head? = some '_' ∨ cs.getLast? = some '_' ∨ hasDoubleUnderscore cs then none
  else some (cs.filter (· != '_'))

def ofText? (text : String) : Option Binary64 :=
  match ofChars? (dropEnds isWhite text.toList) with
  | some x => some x
  | none => (dropUnderscores? text.toList).bind ofChars?

end DeployScript.Numeric.Binary64
