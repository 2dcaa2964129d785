import DeployScript.Text.Digit
import DeployScript.Yaml.Cursor
import DeployScript.Yaml.Token

/-!
# Reading names, tags and directives

The parts of a text that say something about a node or a document: anchors and references, tags with
their handles, and the directives before a document.
-/

namespace DeployScript.Yaml

open DeployScript.Text (ofDigits ofHex?)

/-! ### Anchors and references -/

def readName (c : Cursor) : Except Fault (String × Cursor) :=
  let name := c.step.run isNameChar
  let after := c.step.forward name.length
  if name.isEmpty then after.fail .anchorName
  else if isBlankOrEnd after.peek || isOneOf "?:,]\x7d%@`" after.peek then
    .ok (String.ofList name, after)
  else after.fail .anchorEnd

/-! ### Tags -/

/-- The handle of a tag: `!`, `!!` or a name between two exclamation marks. -/
def readHandle (c : Cursor) : Except Fault (String × Cursor) :=
  if c.peek ≠ '!' then c.fail .tagHandle
  else if c.peekAt 1 = ' ' then .ok ("!", c.step)
  else
    let name := c.step.run isNameChar
    let after := c.step.forward name.length
    if after.peek = '!' then .ok ("!" ++ String.ofList name ++ "!", after.step)
    else after.fail .tagHandle

def isUriChar (ch : Char) : Bool := ch.isAlphanum || isOneOf "-;/?:@&=+$,_.!~*'()[]%" ch

/-- The bytes of a run of escapes, each a percent sign and two hexadecimal digits. -/
def uriEscapes : Nat → Cursor → List UInt8 → Except Fault (List UInt8 × Cursor)
  | 0, c, bytes => .ok (bytes.reverse, c)
  | fuel + 1, c, bytes =>
    if c.peek = '%' then
      let digits := c.step.rest.take 2
      match if digits.length = 2 then ofHex? digits else none with
      | some n => uriEscapes fuel (c.forward 3) (n.toUInt8 :: bytes)
      | none => c.fail .tagUri
    else .ok (bytes.reverse, c)

def readUri : Nat → List Char → Cursor → Except Fault (String × Cursor)
  | 0, _, c => c.fail .tagUri
  | fuel + 1, done, c =>
    if c.peek = '%' then do
      let (bytes, after) ← uriEscapes (c.rest.length + 1) c []
      match String.fromUTF8? (ByteArray.mk bytes.toArray) with
      | some text => readUri fuel (done ++ text.toList) after
      | none => c.fail .tagUri
    else if isUriChar c.peek then readUri fuel (done ++ [c.peek]) c.step
    else if done.isEmpty then c.fail .tagUri
    else .ok (String.ofList done, c)

def uri (c : Cursor) : Except Fault (String × Cursor) := readUri (c.rest.length + 1) [] c

/-- Does a second exclamation mark close a handle before the next space? -/
def hasHandle (c : Cursor) : Bool :=
  (c.step.run fun ch => !isSpaceOrEnd ch).contains '!'

def readTag (c : Cursor) : Except Fault (TokenKind × Cursor) := do
  let (kind, after) ←
    if c.peekAt 1 = '<' then do
      let (text, after) ← uri (c.forward 2)
      if after.peek = '>' then pure (TokenKind.tag none text, after.step)
      else after.fail .tagEnd
    else if isBlankOrEnd (c.peekAt 1) then pure (TokenKind.tag none "!", c.step)
    else do
      let (handle, after) ← if hasHandle c then readHandle c else pure ("!", c.step)
      let (text, after) ← uri after
      pure (TokenKind.tag (some handle) text, after)
  if isSpaceOrEnd after.peek then return (kind, after) else after.fail .tagEnd

/-! ### Directives -/

def versionDigits (c : Cursor) : Except Fault (Nat × Cursor) :=
  let digits := c.run Char.isDigit
  if digits.isEmpty then c.fail .directiveValue
  else if digits.length > 4300 then .error (.crash .longInteger)
  else .ok (ofDigits digits, c.forward digits.length)

def versionValue (c : Cursor) : Except Fault (Directive × Cursor) := do
  let (major, c) ← versionDigits c.skipSpaces
  if c.peek ≠ '.' then c.fail .directiveValue
  let (_, c) ← versionDigits c.step
  if isSpaceOrEnd c.peek then return (.version major, c) else c.fail .directiveValue

def tagValue (c : Cursor) : Except Fault (Directive × Cursor) := do
  let (handle, c) ← readHandle c.skipSpaces
  if c.peek ≠ ' ' then c.fail .directiveValue
  let (expansion, c) ← uri c.skipSpaces
  if isSpaceOrEnd c.peek then return (.tag handle expansion, c) else c.fail .directiveValue

def readDirective (c : Cursor) : Except Fault (TokenKind × Cursor) := do
  let name := c.step.run isNameChar
  let c := c.step.forward name.length
  if name.isEmpty || !isSpaceOrEnd c.peek then c.fail .directiveName
  else
    let (directive, c) ←
      if name = "YAML".toList then versionValue c
      else if name = "TAG".toList then tagValue c
      else pure (Directive.other, c.skip fun ch => !isBreakOrEnd ch)
    let c ← c.finishLine .directiveEnd
    return (.directive directive, c)

end DeployScript.Yaml
