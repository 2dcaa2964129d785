import DeployScript.Yaml.Error

/-!
# Reading positions

A cursor is a position in a text: what is left from there, how many characters are behind it, and
its line and column. Past the end it sees NUL characters, which no YAML text holds.
-/

namespace DeployScript.Yaml

/-! ### Character classes -/

/-- A character that ends a line. -/
def isBreak (c : Char) : Bool :=
  c == '\n' || c == '\r' || c == '\u0085' || c == '\u2028' || c == '\u2029'

def isBreakOrEnd (c : Char) : Bool := isBreak c || c == '\x00'

def isSpaceOrEnd (c : Char) : Bool := c == ' ' || isBreakOrEnd c

def isBlankOrEnd (c : Char) : Bool := c == '\t' || isSpaceOrEnd c

/-- A character of a name: an ASCII letter or digit, a hyphen or an underscore. -/
def isNameChar (c : Char) : Bool := c.isAlphanum || c == '-' || c == '_'

/-- Is `c` one of the characters of `set`? -/
def isOneOf (set : String) (c : Char) : Bool := set.toList.contains c

/-- May the character stand in a YAML text? -/
def isAllowed (c : Char) : Bool :=
  let n := c.toNat
  n == 0x09 || n == 0x0a || n == 0x0d || (0x20 ≤ n && n ≤ 0x7e) || n == 0x85 ||
    (0xa0 ≤ n && n ≤ 0xd7ff) || (0xe000 ≤ n && n ≤ 0xfffd) || 0x10000 ≤ n

/-! ### Cursors -/

structure Cursor where
  rest : List Char
  index : Nat
  line : Nat
  column : Nat
deriving Repr

namespace Cursor

def ofText (cs : List Char) : Cursor := ⟨cs, 0, 0, 0⟩

def mark (c : Cursor) : Mark := ⟨c.line, c.column⟩

def fail {α : Type} (c : Cursor) (what : Problem) : Except Fault α := .error (.problem what c.mark)

def peek (c : Cursor) : Char := c.rest.headD '\x00'

def peekAt (c : Cursor) (n : Nat) : Char := c.rest.getD n '\x00'

def step (c : Cursor) : Cursor :=
  match c.rest with
  | [] => c
  | ch :: rest =>
    if isBreak ch && !(ch == '\r' && rest.head? == some '\n') then
      ⟨rest, c.index + 1, c.line + 1, 0⟩
    else ⟨rest, c.index + 1, c.line, if ch = '\uFEFF' then c.column else c.column + 1⟩

def forward (c : Cursor) : Nat → Cursor
  | 0 => c
  | n + 1 => c.step.forward n

/-- The characters of a class at the cursor. -/
def run (c : Cursor) (p : Char → Bool) : List Char := c.rest.takeWhile p

def skip (c : Cursor) (p : Char → Bool) : Cursor := c.forward (c.run p).length

def skipSpaces (c : Cursor) : Cursor := c.skip (· == ' ')

def skipComment (c : Cursor) : Cursor :=
  if c.peek = '#' then c.skip fun ch => !isBreakOrEnd ch else c

/-- The line break at the cursor, as the character that it is read as, and the cursor past it. -/
def lineBreak? (c : Cursor) : Option (Char × Cursor) :=
  match c.rest with
  | '\r' :: '\n' :: _ => some ('\n', c.forward 2)
  | ch :: _ =>
    if ch = '\u2028' ∨ ch = '\u2029' then some (ch, c.step)
    else if isBreak ch then some ('\n', c.step)
    else none
  | [] => none

def skipBreak (c : Cursor) : Cursor := match c.lineBreak? with
  | some (_, after) => after
  | none => c

/-- Is there a line of three characters `ch`, which separates documents, at the cursor? -/
def atSeparator (c : Cursor) (ch : Char) : Bool :=
  c.rest.take 3 == [ch, ch, ch] && isBlankOrEnd (c.peekAt 3)

/-- Is there either separator of documents at the cursor? -/
def atDocumentEdge (c : Cursor) : Bool := c.atSeparator '-' || c.atSeparator '.'

/-- Past blanks and a comment up to the end of the line, which has to be there; `what` is the
problem if it is not. -/
def finishLine (c : Cursor) (what : Problem) : Except Fault Cursor :=
  let c := c.skipSpaces.skipComment
  if isBreakOrEnd c.peek then .ok c.skipBreak else c.fail what

/-- Past white space, line breaks and comments: the cursor, and whether a line break was passed. -/
def skipToToken : Nat → Bool → Cursor → Cursor × Bool
  | 0, passed, c => (c, passed)
  | fuel + 1, passed, c =>
    let c := c.skipSpaces.skipComment
    match c.lineBreak? with
    | some (_, after) => skipToToken fuel true after
    | none => (c, passed)

end Cursor

end DeployScript.Yaml
