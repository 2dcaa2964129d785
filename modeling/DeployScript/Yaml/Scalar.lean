import DeployScript.Document
import DeployScript.Numeric.Arithmetic
import DeployScript.Numeric.Reader
import DeployScript.Text.Base64
import DeployScript.Text.Space
import DeployScript.Yaml.Timestamp
import DeployScript.Yaml.Token

/-!
# Values of scalars

What the text of a scalar means under a tag. Underscores in numbers do not count. Integers may be
binary, octal, hexadecimal or decimal, and both kinds of numbers may be written in base sixty, as
times are, with colons between the places. The digits may be those of any script, and there may be
space around each run of them.
-/

namespace DeployScript.Yaml

open DeployScript.Numeric (Binary64)
open DeployScript.Text (decimalValue? dropEnds hexValue? isPlainSpace isWhite)

/-! ### Numerals -/

/-- A character of a numeral in ASCII: the digits of all scripts as those of ASCII, and white space
beyond ASCII as a space. -/
def asciiNumeral (c : Char) : Char :=
  if c.toNat < 0x80 then c
  else if isWhite c then ' '
  else match decimalValue? c with
    | some n => Char.ofNat ('0'.toNat + n)
    | none => c

def numeral (cs : List Char) : List Char := dropEnds isPlainSpace (cs.map asciiNumeral)

/-! ### Integers -/

def ofBase? (base : Nat) (cs : List Char) : Option Nat :=
  if cs.isEmpty then none
  else cs.foldlM (fun n c => ((hexValue? c).filter (· < base)).map (base * n + ·)) 0

/-- The letter that may stand after a zero before the digits of a base. -/
def baseLetter? (base : Nat) : Option Char :=
  if base = 2 then some 'b' else if base = 8 then some 'o' else if base = 16 then some 'x' else none

def dropBase (base : Nat) (cs : List Char) : List Char :=
  match cs with
  | '0' :: letter :: digits =>
    if (baseLetter? base).isSome && baseLetter? base == some letter.toLower then digits else cs
  | _ => cs

def intOfBase (base : Nat) (cs : List Char) : Except Crash Int :=
  let (negative, unsigned) := Binary64.signPart (numeral cs)
  let digits := dropBase base unsigned
  if base = 10 ∧ digits.length > 4300 ∧ digits.all Char.isDigit then .error .longInteger
  else match ofBase? base digits with
    | none => .error .unreadableNumber
    | some n => .ok (if negative then -(n : Int) else n)

def splitColons : List Char → List (List Char)
  | [] => [[]]
  | c :: rest =>
    if c = ':' then [] :: splitColons rest
    else match splitColons rest with
      | [] => [[c]]
      | part :: more => (c :: part) :: more

def unsignedInt (cs : List Char) : Except Crash Int :=
  match cs with
  | [] => .error .emptyNumber
  | ['0'] => .ok 0
  | '0' :: 'b' :: digits => intOfBase 2 digits
  | '0' :: 'x' :: digits => intOfBase 16 digits
  | '0' :: _ => intOfBase 8 cs
  | _ =>
    if cs.contains ':' then do
      let places ← (splitColons cs).mapM (intOfBase 10)
      return places.foldl (fun n place => 60 * n + place) 0
    else intOfBase 10 cs

/-- The sign of a number and what follows it, underscores being dropped. -/
def splitSign (cs : List Char) : Except Crash (Bool × List Char) :=
  match cs.filter (· != '_') with
  | [] => .error .emptyNumber
  | digits => .ok (Binary64.signPart digits)

def intOf (cs : List Char) : Except Crash Int := do
  let (negative, unsigned) ← splitSign cs
  let n ← unsignedInt unsigned
  return if negative then -n else n

/-! ### Floating point numbers -/

def decimalOf (cs : List Char) : Except Crash Binary64 :=
  match Binary64.ofChars? (numeral cs) with
  | some x => .ok x
  | none => .error .unreadableNumber

/-- The sum of the places of a number in base sixty, the last one first. -/
def sumPlaces : Nat → Binary64 → List Binary64 → Except Crash Binary64
  | _, sum, [] => .ok sum
  | weight, sum, place :: rest =>
    match Binary64.ofInt? weight with
    | none => .error .overflow
    | some w => sumPlaces (60 * weight) (sum.add (place.mul w)) rest

def nanWord : List Char := ".nan".toList

/-- Is the text the word for what is no number, whatever its letter case and sign? -/
def isNanWord (cs : List Char) : Bool :=
  match splitSign (cs.map Char.toLower) with
  | .ok (_, unsigned) => unsigned == nanWord
  | .error _ => false

def floatOf (cs : List Char) : Except Crash Binary64 := do
  let (negative, unsigned) ← splitSign (cs.map Char.toLower)
  let x ←
    if unsigned = ".inf".toList then pure (Binary64.infinite false)
    else if unsigned = nanWord then pure Binary64.nan
    else if unsigned.contains ':' then do
      let places ← (splitColons unsigned).mapM decimalOf
      sumPlaces 1 (.zero false) places.reverse
    else decimalOf unsigned
  return if negative then x.neg else x

/-! ### Scalars -/

def flags : List (String × Bool) :=
  [("yes", true), ("no", false), ("true", true), ("false", false), ("on", true), ("off", false)]

def timestampOf (cs : List Char) : Except Crash Document :=
  match Timestamp.ofChars? cs with
  | none => .error .unreadableDate
  | some t =>
    if t.isReal then .ok t.toDocument else .error .impossibleDate

def orCrash {α : Type} : Except Crash α → Except Fault α := Except.mapError .crash

def flagOf (cs : List Char) : Except Crash Bool :=
  match flags.lookup (String.ofList (cs.map Char.toLower)) with
  | some b => .ok b
  | none => .error .unknownFlag

def bytesOf? (cs : List Char) : Option ByteArray :=
  if cs.any fun c => 0x80 ≤ c.toNat then none
  else (Text.Base64.decode cs).map fun bytes => ⟨bytes.toArray⟩

/-- What `read` makes of a text; a broken one fails by itself. -/
def readChars {α : Type} (t : Text) (broken : Crash) (read : List Char → Except Crash α) :
    Except Fault α :=
  orCrash (match t.chars? with
    | some cs => read cs
    | none => .error broken)

def scalarValue (mark : Mark) (tag : Tag) (text : Text) : Except Fault Document :=
  match tag with
  | .null => .ok .null
  | .bool => (readChars text .unknownFlag flagOf).map .bool
  | .int => (readChars text .unreadableNumber intOf).map .int
  | .float => (readChars text .unreadableNumber floatOf).map .number
  | .text => .ok (.text text)
  | .timestamp => readChars text .unreadableDate timestampOf
  | .binary =>
    match text.chars?.bind bytesOf? with
    | some bytes => .ok (.bytes bytes)
    | none => .error (.problem .base64 mark)
  | .sequence | .mapping | .set | .orderedMap | .pairs => .error (.problem .wrongNode mark)
  | .merge | .value | .other _ => .error (.problem .unknownTag mark)

end DeployScript.Yaml
