import DeployScript.Yaml.Token.Property
import DeployScript.Yaml.Token.Scalar

/-!
# Splitting YAML texts into tokens

`tokens` splits a text into its tokens, the ones for the begin and end of block collections among
them. Two things need memory. Indentation: a token further left ends the collections that are
indented more. And keys: a colon makes a key of the node before it, which has to stand on the same
line, so that every place is remembered where such a key may have started, one for each level of
flow collections. The token that marks a key is put in at its place afterwards.
-/

namespace DeployScript.Yaml

/-- A place where a key may have started. -/
structure PossibleKey where
  /-- The level of flow collections that it is in. -/
  level : Nat
  /-- How many tokens are before it. -/
  position : Nat
  /-- Nothing but a key can stand there. -/
  isRequired : Bool
  index : Nat
  line : Nat
  column : Nat
deriving Repr

/-- What is remembered while a text is split. -/
structure Lexer where
  cursor : Cursor
  tokens : Array Token
  level : Nat
  /-- The column of the innermost block collection; minus one outside of any. -/
  indent : Int
  outer : List Int
  keyAllowed : Bool
  keys : List PossibleKey

namespace Lexer

def ofText (cs : List Char) : Lexer := ⟨.ofText cs, #[], 0, -1, [], true, []⟩

/-- What a step of splitting gives: an error, or the lexer after it. -/
abbrev Result := Except Fault Lexer

def push (l : Lexer) (kind : TokenKind) : Lexer :=
  { l with tokens := l.tokens.push ⟨kind, l.cursor.mark⟩ }

/-- With a token more that takes up `n` characters. -/
def pushMark (l : Lexer) (kind : TokenKind) (n : Nat) : Lexer :=
  { l.push kind with cursor := l.cursor.forward n }

def pushTo (l : Lexer) (kind : TokenKind) (after : Cursor) : Lexer :=
  { l.push kind with cursor := after }

/-- With a token put in before others. -/
def insert (l : Lexer) (position : Nat) (kind : TokenKind) (mark : Mark) : Lexer :=
  { l with tokens := l.tokens.insertIdxIfInBounds position ⟨kind, mark⟩ }

/-! ### Keys -/

/-- Can the key not be one any more? It is on an earlier line or too far behind. -/
def isStale (l : Lexer) (k : PossibleKey) : Bool :=
  k.line != l.cursor.line || decide (l.cursor.index - k.index > 1024)

/-- Without the keys for which `gone` holds; none of them may be required. -/
def forgetKeys (l : Lexer) (gone : PossibleKey → Bool) : Result :=
  if l.keys.any fun k => gone k && k.isRequired then l.cursor.fail .missingColon
  else .ok { l with keys := l.keys.filter fun k => !gone k }

def forgetStale (l : Lexer) : Result := l.forgetKeys l.isStale

def forgetKey (l : Lexer) : Result := l.forgetKeys fun k => k.level == l.level

/-- With the cursor remembered as the start of a key, where keys are allowed. -/
def rememberKey (l : Lexer) : Result :=
  if l.keyAllowed then do
    let l ← l.forgetKey
    let isRequired := l.level == 0 && l.indent == l.cursor.column
    return { l with keys :=
      ⟨l.level, l.tokens.size, isRequired, l.cursor.index, l.cursor.line, l.cursor.column⟩
        :: l.keys }
  else .ok l

def allowKey (l : Lexer) (allowed : Bool) : Lexer := { l with keyAllowed := allowed }

/-! ### Indentation -/

/-- With the block collections ended that are indented further than a column. -/
def unwindBelow (column : Int) : Nat → Lexer → Lexer
  | 0, l => l
  | fuel + 1, l =>
    if l.indent > column then
      unwindBelow column fuel
        { l.push .blockEnd with indent := l.outer.headD (-1), outer := l.outer.tail }
    else l

/-- The same outside flow collections, where alone indentation counts. -/
def unwind (l : Lexer) (column : Int) : Lexer :=
  if l.level = 0 then unwindBelow column (l.outer.length + 1) l else l

/-- With a new block collection at a column, if it is indented further than the current one. -/
def indentTo (l : Lexer) (column : Nat) : Option Lexer :=
  if l.indent < column then some { l with indent := column, outer := l.indent :: l.outer } else none

/-! ### Tokens -/

def lexEnd (l : Lexer) : Result := do
  let l ← (l.unwind (-1)).forgetKey
  return (l.push .streamEnd).allowKey false

def lexDirective (l : Lexer) : Result := do
  let l ← (l.unwind (-1)).forgetKey
  let (kind, after) ← readDirective l.cursor
  return (l.pushTo kind after).allowKey false

def lexDocumentEdge (l : Lexer) (kind : TokenKind) : Result := do
  let l ← (l.unwind (-1)).forgetKey
  return (l.pushMark kind 3).allowKey false

def lexFlowStart (l : Lexer) (kind : TokenKind) : Result := do
  let l ← l.rememberKey
  return { l.pushMark kind 1 with level := l.level + 1, keyAllowed := true }

def lexFlowEnd (l : Lexer) (kind : TokenKind) : Result := do
  let l ← l.forgetKey
  return { l.pushMark kind 1 with level := l.level - 1, keyAllowed := false }

def lexFlowEntry (l : Lexer) : Result := do
  let l ← (l.allowKey true).forgetKey
  return l.pushMark .flowEntry 1

/-- With the start of a block collection, where one has to start. Keys have to be allowed. -/
def startBlock (l : Lexer) (kind : TokenKind) (what : Problem) : Result :=
  if l.level ≠ 0 then .ok l
  else if !l.keyAllowed then l.cursor.fail what
  else match l.indentTo l.cursor.column with
    | some inner => .ok (inner.push kind)
    | none => .ok l

def lexBlockEntry (l : Lexer) : Result := do
  let l ← l.startBlock .blockSequenceStart .sequenceHere
  let l ← (l.allowKey true).forgetKey
  return l.pushMark .blockEntry 1

def lexKey (l : Lexer) : Result := do
  let l ← l.startBlock .blockMappingStart .keyHere
  let l ← (l.allowKey (l.level == 0)).forgetKey
  return l.pushMark .key 1

/-- The colon of a value, which may make a key of what is before it. -/
def lexValue (l : Lexer) : Result :=
  match l.keys.find? fun k => k.level == l.level with
  | some k =>
    let mark : Mark := ⟨k.line, k.column⟩
    let l := { l with keys := l.keys.filter fun k => k.level != l.level }
    let l := l.insert k.position .key mark
    let l :=
      if l.level ≠ 0 then l
      else match l.indentTo k.column with
        | some inner => inner.insert k.position .blockMappingStart mark
        | none => l
    .ok ((l.allowKey false).pushMark .value 1)
  | none => do
    let l ← l.startBlock .blockMappingStart .valueHere
    let l ← (l.allowKey (l.level == 0)).forgetKey
    return l.pushMark .value 1

/-- A token that may start a key, read by `read`. -/
def lexNodePart (l : Lexer) (read : Cursor → Except Fault (TokenKind × Cursor)) : Result := do
  let l ← l.rememberKey
  let (kind, after) ← read l.cursor
  return (l.pushTo kind after).allowKey false

/-- A plain scalar. A key may follow if it ends at the start of a line. -/
def lexPlain (l : Lexer) : Result := do
  let l ← l.rememberKey
  let r := readPlain (l.level != 0) (l.indent + 1) l.cursor
  return (l.pushTo (.scalar (.ofChars r.chars) true) r.cursor).allowKey r.atLineStart

def lexBlock (l : Lexer) : Result := do
  let l ← (l.allowKey true).forgetKey
  let (text, after) ← readBlock l.indent l.cursor
  return l.pushTo (.scalar text false) after

def plainStarts (l : Lexer) : Bool :=
  let ch := l.cursor.peek
  !(isBlankOrEnd ch || isOneOf "-?:,[]\x7b\x7d#&*!|>'\"%@`" ch) ||
    (!isBlankOrEnd (l.cursor.peekAt 1) && (ch == '-' || (l.level == 0 && isOneOf "?:" ch)))

def lexToken (l : Lexer) : Result :=
  let c := l.cursor
  let ch := c.peek
  let isSpaced := isBlankOrEnd (c.peekAt 1)
  if c.rest.isEmpty then l.lexEnd
  else if ch = '%' ∧ c.column = 0 then l.lexDirective
  else if c.column = 0 ∧ c.atSeparator '-' then l.lexDocumentEdge .documentStart
  else if c.column = 0 ∧ c.atSeparator '.' then l.lexDocumentEdge .documentEnd
  else if ch = '[' then l.lexFlowStart .flowSequenceStart
  else if ch = '\x7b' then l.lexFlowStart .flowMappingStart
  else if ch = ']' then l.lexFlowEnd .flowSequenceEnd
  else if ch = '\x7d' then l.lexFlowEnd .flowMappingEnd
  else if ch = ',' then l.lexFlowEntry
  else if ch = '-' ∧ isSpaced then l.lexBlockEntry
  else if ch = '?' ∧ (l.level ≠ 0 ∨ isSpaced) then l.lexKey
  else if ch = ':' ∧ (l.level ≠ 0 ∨ isSpaced) then l.lexValue
  else if ch = '*' then l.lexNodePart fun c => do
    let (name, after) ← readName c
    return (.reference name, after)
  else if ch = '&' then l.lexNodePart fun c => do
    let (name, after) ← readName c
    return (.anchor name, after)
  else if ch = '!' then l.lexNodePart readTag
  else if (ch = '|' ∨ ch = '>') ∧ l.level = 0 then l.lexBlock
  else if ch = '\'' ∨ ch = '"' then l.lexNodePart fun c => do
    let (text, after) ← readQuoted c
    return (.scalar text false, after)
  else if l.plainStarts then l.lexPlain
  else c.fail .badStart

/-- The next token with what goes before it: white space, and the ends of block collections. -/
def next (l : Lexer) : Result := do
  let (cursor, passed) := Cursor.skipToToken (l.cursor.rest.length + 1) false l.cursor
  let l := { l with cursor, keyAllowed := l.keyAllowed || (passed && l.level == 0) }
  let l ← l.forgetStale
  (l.unwind l.cursor.column).lexToken

def isDone (l : Lexer) : Bool := (l.tokens.back?.map Token.kind) == some .streamEnd

/-- The tokens that are certain: those before every place where a key may have started, since it is
not known yet what goes in there. -/
def certain (l : Lexer) : Array Token :=
  let positions := (l.keys.filter fun k => !l.isStale k).map PossibleKey.position
  l.tokens.take (positions.foldl min l.tokens.size)

/-- All tokens from here on; if an error stops them, those that are certain by then, and the error.
-/
def toEnd : Nat → Lexer → Array Token × Option Fault
  | 0, l => (l.tokens, none)
  | fuel + 1, l =>
    match l.next with
    | .error fault => (l.certain, some fault)
    | .ok l => if l.isDone then (l.tokens, none) else toEnd fuel l

end Lexer

/-- The tokens of a text; if an error stops them, those that are certain by then, and the error. -/
def tokens (cs : List Char) : Array Token × Option Fault :=
  let l := Lexer.ofText cs
  let start := if l.cursor.peek = '\uFEFF' then l.cursor.step else l.cursor
  Lexer.toEnd (cs.length + 2) { l with cursor := start }

end DeployScript.Yaml
