import DeployScript.Numeric.Binary64
import DeployScript.Text.Digit
import DeployScript.Yaml.Cursor
import DeployScript.Yaml.Token

/-!
# Reading scalars

A scalar is plain, quoted or a block. A line end inside a plain or quoted scalar stands for a blank,
and line ends after it for themselves. A block scalar keeps the lines that are indented at least as
far as its first one, and its header says what becomes of the line ends at its end.

Each reader takes a cursor at the scalar and returns the scalar with the cursor past it. The loops
take as much fuel as the text has characters.
-/

namespace DeployScript.Yaml

open DeployScript.Numeric (power)
open DeployScript.Text (ofHex? ofDigits hexValue?)

/-- What a line break and the empty lines after it, each given by its character, stand for. -/
def foldBreak (first : Char) (further : List Char) : List Char :=
  if first != '\n' then first :: further
  else if further.isEmpty then [' ']
  else further

/-! ### Quoted scalars -/

def escapes : List (Char × Char) :=
  [('0', '\x00'), ('a', '\x07'), ('b', '\x08'), ('t', '\t'), ('\t', '\t'), ('n', '\n'),
    ('v', '\x0b'), ('f', '\x0c'), ('r', '\r'), ('e', '\x1b'), (' ', ' '), ('"', '"'),
    ('\\', '\\'), ('/', '/'), ('N', '\u0085'), ('_', '\u00a0'), ('L', '\u2028'), ('P', '\u2029')]

/-- How many hexadecimal digits follow a backslash and one character. -/
def escapeWidths : List (Char × Nat) := [('x', 2), ('u', 4), ('U', 8)]

def pointOfNumber (n : Nat) : Except Crash CodePoint :=
  match CodePoint.ofNumber? n with
  | some point => .ok point
  | none => .error (if n < power 2 31 then .codePointTooLarge else .overflow)

/-- Empty lines inside a quoted scalar, each as its character. A document must not end here. -/
def quotedBreaks : Nat → Cursor → List Char → Except Fault (List Char × Cursor)
  | 0, c, breaks => .ok (breaks.reverse, c)
  | fuel + 1, c, breaks =>
    if c.atDocumentEdge then c.fail .documentInQuote
    else
      let c := c.skip fun ch => ch == ' ' || ch == '\t'
      match c.lineBreak? with
      | some (b, after) => quotedBreaks fuel after (b :: breaks)
      | none => .ok (breaks.reverse, c)

def quotedSpaces (c : Cursor) : Except Fault (List Char × Cursor) := do
  let blanks := c.run fun ch => ch == ' ' || ch == '\t'
  let c := c.forward blanks.length
  if c.rest.isEmpty then c.fail .openQuote
  else match c.lineBreak? with
    | none => .ok (blanks, c)
    | some (b, after) =>
      let (further, c) ← quotedBreaks (after.rest.length + 1) after []
      return (foldBreak b further, c)

/-- A character that may stand for itself anywhere inside quotes. -/
def isQuotable (ch : Char) : Bool := !(isOneOf "'\"\\" ch || isBlankOrEnd ch)

/-- An escape, the cursor being past its backslash. -/
def readEscape (c : Cursor) : Except Fault (Text × Cursor) :=
  match escapes.lookup c.peek, escapeWidths.lookup c.peek with
  | some d, _ => .ok ([.char d], c.step)
  | none, some width =>
    let digits := c.step.rest.take width
    match if digits.length = width then ofHex? digits else none with
    | none => c.fail .escape
    | some n =>
      match pointOfNumber n with
      | .ok point => .ok ([point], c.step.forward width)
      | .error crash => .error (.crash crash)
  | none, none =>
    match c.lineBreak? with
    | none => c.fail .escape
    | some (_, after) => do
      let (breaks, c) ← quotedBreaks (after.rest.length + 1) after []
      return (.ofChars breaks, c)

def quotedRest (double : Bool) : Nat → Cursor → Except Fault (Text × Cursor)
  | 0, c => c.fail .openQuote
  | fuel + 1, c =>
    let after (text : Text) (c : Cursor) : Except Fault (Text × Cursor) :=
      (quotedRest double fuel c).map fun (rest, c) => (text ++ rest, c)
    let ch := c.peek
    if isQuotable ch then
      let chars := c.run isQuotable
      after (.ofChars chars) (c.forward chars.length)
    else if ch = '\'' then
      if double then after ([.char ch]) c.step
      else if c.peekAt 1 = '\'' then after ([.char ch]) (c.forward 2)
      else .ok ([], c.step)
    else if ch = '"' then
      if double then .ok ([], c.step) else after ([.char ch]) c.step
    else if ch = '\\' then
      if double then do
        let (text, c) ← readEscape c.step
        after text c
      else after ([.char ch]) c.step
    else do
      let (chars, c) ← quotedSpaces c
      after (.ofChars chars) c

def readQuoted (c : Cursor) : Except Fault (Text × Cursor) :=
  quotedRest (c.peek == '"') (c.rest.length + 1) c.step

/-! ### Plain scalars -/

def plainEndsAt (inFlow : Bool) (cs : List Char) : Bool :=
  match cs with
  | [] => true
  | ch :: after =>
    isBlankOrEnd ch ||
      (ch == ':' && (let next := after.headD '\x00'
        isBlankOrEnd next || (inFlow && isOneOf ",[]\x7b\x7d" next))) ||
      (inFlow && isOneOf ",?[]\x7b\x7d" ch)

/-- The characters of a plain scalar up to where it ends or pauses. -/
def plainChunk (inFlow : Bool) : List Char → List Char
  | [] => []
  | ch :: after => if plainEndsAt inFlow (ch :: after) then [] else ch :: plainChunk inFlow after

/-- Empty lines and indentation inside a plain scalar, each line as its character; `none` where a
document ends. -/
def plainBreaks : Nat → Cursor → List Char → Option (List Char) × Cursor
  | 0, c, breaks => (some breaks.reverse, c)
  | fuel + 1, c, breaks =>
    let c := c.skipSpaces
    match c.lineBreak? with
    | none => (some breaks.reverse, c)
    | some (b, after) =>
      if after.atDocumentEdge then (none, after) else plainBreaks fuel after (b :: breaks)

/-- What is between two chunks of a plain scalar: the characters it stands for, none if the scalar
ends here, with the cursor past it and whether it holds a line break. -/
def plainGap (c : Cursor) : List Char × Cursor × Bool :=
  let spaces := c.run (· == ' ')
  let c := c.forward spaces.length
  match c.lineBreak? with
  | none => (spaces, c, false)
  | some (b, after) =>
    if after.atDocumentEdge then ([], after, true)
    else match plainBreaks (after.rest.length + 1) after [] with
      | (none, c) => ([], c, true)
      | (some further, c) => (foldBreak b further, c, true)

/-- A plain scalar, or the rest of one, and the cursor past it. -/
structure PlainRead where
  chars : List Char
  cursor : Cursor
  /-- Did it end at the start of a line? -/
  atLineStart : Bool

/-- The rest of a plain scalar. `gap` is what stands before the next chunk if there is one,
`atLineStart` tells whether it holds a line break, and `indent` is the least column that the scalar
may go on at. -/
def plainRest (inFlow : Bool) (indent : Int) : Nat → List Char → Bool → Cursor → PlainRead
  | 0, _, atLineStart, c => ⟨[], c, atLineStart⟩
  | fuel + 1, gap, atLineStart, c =>
    let chunk := if c.peek = '#' then [] else plainChunk inFlow c.rest
    if chunk.isEmpty then ⟨[], c, atLineStart⟩
    else
      let (nextGap, after, broke) := plainGap (c.forward chunk.length)
      let rest : PlainRead :=
        if nextGap.isEmpty || after.peek == '#' ||
            (!inFlow && decide ((after.column : Int) < indent)) then ⟨[], after, broke⟩
        else plainRest inFlow indent fuel nextGap broke after
      { rest with chars := gap ++ chunk ++ rest.chars }

def readPlain (inFlow : Bool) (indent : Int) (c : Cursor) : PlainRead :=
  plainRest inFlow indent (c.rest.length + 1) [] false c

/-! ### Block scalars -/

/-- What becomes of the line ends at the end of a block scalar. -/
inductive Chomping where
  | strip
  | clip
  | keep
deriving DecidableEq, Repr

def chomping? (c : Cursor) : Option Chomping :=
  if c.peek = '+' then some .keep else if c.peek = '-' then some .strip else none

def increment? (c : Cursor) : Except Fault (Option Nat × Cursor) :=
  if c.peek.isDigit then
    if c.peek = '0' then c.fail .blockHeader else .ok (some (ofDigits [c.peek]), c.step)
  else .ok (none, c)

/-- The header of a block scalar: its two indicators in either order, and the rest of the line. -/
def blockHeader (c : Cursor) : Except Fault (Chomping × Option Nat × Cursor) := do
  let (chomping, increment, c) ← match chomping? c with
    | some chomping => do
      let (increment, c) ← increment? c.step
      pure (chomping, increment, c)
    | none => do
      let (increment, c) ← increment? c
      match increment, chomping? c with
      | some n, some chomping => pure (chomping, some n, c.step)
      | _, _ => pure (Chomping.clip, increment, c)
  if isSpaceOrEnd c.peek then
    let c ← c.finishLine .blockHeader
    return (chomping, increment, c)
  else c.fail .blockHeader

def skipIndent (column : Nat) : Nat → Cursor → Cursor
  | 0, c => c
  | fuel + 1, c => if c.column < column ∧ c.peek = ' ' then skipIndent column fuel c.step else c

/-- Empty lines before a line of a block scalar that is indented to a column. -/
def blockBreaks (column : Nat) : Nat → Cursor → List Char → List Char × Cursor
  | 0, c, breaks => (breaks.reverse, c)
  | fuel + 1, c, breaks =>
    let c := skipIndent column (c.rest.length + 1) c
    match c.lineBreak? with
    | some (b, after) => blockBreaks column fuel after (b :: breaks)
    | none => (breaks.reverse, c)

/-- The lines before the first line of a block scalar, and the widest indentation among them. -/
def blockIndentation : Nat → Cursor → List Char → Nat → List Char × Nat × Cursor
  | 0, c, breaks, widest => (breaks.reverse, widest, c)
  | fuel + 1, c, breaks, widest =>
    let c := c.skipSpaces
    let widest := max widest c.column
    match c.lineBreak? with
    | some (b, after) => blockIndentation fuel after (b :: breaks) widest
    | none => (breaks.reverse, widest, c)

/-- What stands for the end of a block scalar: the last line end and the empty lines after it. -/
def chompedEnd (chomping : Chomping) (last : List Char) (breaks : List Char) : List Char :=
  match chomping with
  | .strip => []
  | .clip => last
  | .keep => last ++ breaks

/-- The lines of a block scalar that is indented to a column, `breaks` being the empty lines before
the cursor. -/
def blockLines (folded : Bool) (chomping : Chomping) (column : Nat) :
    Nat → List Char → Cursor → List Char × Cursor
  | 0, _, c => ([], c)
  | fuel + 1, breaks, c =>
    let startsBlank := isOneOf " \t" c.peek
    let line := c.run fun ch => !isBreakOrEnd ch
    let c := c.forward line.length
    let (last, c) := match c.lineBreak? with
      | some (b, after) => ([b], after)
      | none => ([], c)
    let (further, c) := blockBreaks column (c.rest.length + 1) c []
    let (rest, c) :=
      if c.column = column ∧ c.rest ≠ [] then
        let joint :=
          if folded && last == ['\n'] && !startsBlank && !isOneOf " \t" c.peek then
            if further.isEmpty then [' '] else []
          else last
        let (rest, c) := blockLines folded chomping column fuel further c
        (joint ++ rest, c)
      else (chompedEnd chomping last further, c)
    (breaks ++ line ++ rest, c)

/-- A block scalar inside a collection that is indented to a column; minus one outside of any. -/
def readBlock (indent : Int) (c : Cursor) : Except Fault (Text × Cursor) := do
  let folded := c.peek == '>'
  let (chomping, increment, c) ← blockHeader c.step
  let least := max 1 (indent + 1).toNat
  let fuel := c.rest.length + 1
  let (breaks, column, c) := match increment with
    | none =>
      let (breaks, widest, c) := blockIndentation fuel c [] 0
      (breaks, max least widest, c)
    | some n =>
      let column := least + n - 1
      let (breaks, c) := blockBreaks column fuel c []
      (breaks, column, c)
  if c.column = column ∧ c.rest ≠ [] then
    let (chars, c) := blockLines folded chomping column (c.rest.length + 1) breaks c
    return (.ofChars chars, c)
  else return (.ofChars (chompedEnd chomping [] breaks), c)

end DeployScript.Yaml
