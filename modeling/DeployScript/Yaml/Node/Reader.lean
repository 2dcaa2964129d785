import DeployScript.Depths
import DeployScript.Yaml.Node

/-!
# Building nodes from tokens

`Tree.ofTokens` builds the only document of a text out of its tokens; a text without a document has
none. A missing node is an empty plain scalar.

The readers below share a state: the tokens that are left, the nodes that are built and the anchors
that are set. A collection is put into the graph when it starts, so that the nodes inside it can
refer to it, and filled when it ends. The readers call each other for the nodes inside a node, with
fuel for as many calls as there can be tokens, and refuse collections that are nested too deeply.
-/

namespace DeployScript.Yaml

/-- What is left to be read, and what is known so far. -/
structure TokenReader where
  tokens : List Token
  /-- The error after the last token, if one stops the tokens. -/
  stop : Option Fault
  /-- The handles of tags and what they stand for. -/
  handles : List (String × String)
  /-- The anchors so far and their nodes. -/
  anchors : List (String × NodeId)
  graph : Graph
  /-- How many collections are open. -/
  nesting : Nat

namespace TokenReader

/-- Reading with a state. -/
abbrev Reader (α : Type) := StateT TokenReader (Except Fault) α

def peek : Reader Token := do
  let r ← get
  match r.tokens with
  | token :: _ => return token
  | [] => throw (r.stop.getD (.problem .nothingHere ⟨0, 0⟩))

def kind : Reader TokenKind := return (← peek).kind

def skip : Reader Unit := modify fun r => { r with tokens := r.tokens.tail }

def fail {α : Type} (what : Problem) : Reader α := do throw (.problem what (← peek).mark)

def add (n : Node) : Reader NodeId :=
  modifyGet fun r => (r.graph.size, { r with graph := r.graph.add n })

def emptyNode : Reader NodeId := do add (.empty (← peek).mark)

def isNext (kinds : List TokenKind) : Reader Bool := return kinds.contains (← kind)

/-! ### Properties of nodes -/

/-- What is said about a node before its content. -/
structure Properties where
  anchor : Option String
  /-- The name of the tag. -/
  tag : Option String

structure WrittenTag where
  handle : Option String
  text : String
  mark : Mark

/-- The name of a tag that is written with a declared handle or none. -/
def tagName (tag : WrittenTag) : Reader String := do
  match tag.handle with
  | none => return tag.text
  | some h =>
    match (← get).handles.lookup h with
    | some expansion => return expansion ++ tag.text
    | none => throw (.problem .unknownHandle tag.mark)

def anchor? : Reader (Option String) := do
  match ← kind with
  | .anchor name => skip; return some name
  | _ => return none

def tag? : Reader (Option WrittenTag) := do
  let token ← peek
  match token.kind with
  | .tag handle text => skip; return some ⟨handle, text, token.mark⟩
  | _ => return none

def properties : Reader Properties := do
  let first ← anchor?
  let tag ← tag?
  let anchor ← if first.isNone && tag.isSome then anchor? else pure first
  return ⟨anchor, ← tag.mapM tagName⟩

def scalarTag (tag : Option String) (plain : Bool) (text : Text) : Tag :=
  match tag with
  | none => if plain then .ofPlain text else .text
  | some "!" => .ofPlain text
  | some name => .ofName name

def collectionTag (tag : Option String) (shape : Tag) : Tag :=
  match tag with
  | none => shape
  | some "!" => shape
  | some name => .ofName name

def place (anchor : Option String) (n : Node) : Reader NodeId := do
  match anchor with
  | none => add n
  | some name =>
    if ((← get).anchors.lookup name).isSome then fail .repeatedAnchor
    else
      let id ← add n
      modify fun r => { r with anchors := (name, id) :: r.anchors }
      return id

variable [Depths]

def openCollection (p : Properties) (mark : Mark) (shape : Tag) (content : Content) :
    Reader NodeId := do
  if (← get).nesting < Depths.collections then
    let id ← place p.anchor ⟨mark, collectionTag p.tag shape, content⟩
    modify fun r => { r with nesting := r.nesting + 1 }
    return id
  else throw (.crash .nestedTooDeeply)

/-- Closes a collection, which holds what was read since it was opened. -/
def closeCollection (id : NodeId) (content : Content) : Reader NodeId :=
  modifyGet fun r =>
    (id, { r with graph := r.graph.setContent id content, nesting := r.nesting - 1 })

/-! ### Nodes -/

/-- Where a node stands. -/
inductive Setting where
  /-- Inside a flow collection. -/
  | flow
  /-- Where a block collection may start. -/
  | block
  /-- The same, and the entries of a sequence may stand at the column of the mapping around it. -/
  | blockOrEntries
deriving DecidableEq, Repr

def scalarNode (mark : Mark) (p : Properties) (plain : Bool) (text : Text) : Node :=
  ⟨mark, scalarTag p.tag plain text, .scalar text⟩

mutual

def node (setting : Setting) : Nat → Reader NodeId
  | 0 => fail .nothingHere
  | fuel + 1 => do
    match ← kind with
    | .reference name =>
      match (← get).anchors.lookup name with
      | some id =>
        skip
        return id
      | none => fail .unknownAlias
    | _ =>
      let mark := (← peek).mark
      let p ← properties
      content setting mark p fuel

/-- What follows the properties of a node; without any it must not be missing. -/
def content (setting : Setting) (mark : Mark) (p : Properties) : Nat → Reader NodeId
  | 0 => fail .nothingHere
  | fuel + 1 => do
    match ← kind with
    | .scalar text plain =>
      let id ← place p.anchor (scalarNode mark p plain text)
      skip
      return id
    | .flowSequenceStart =>
      let id ← openCollection p mark .sequence (.sequence [])
      skip
      closeCollection id (.sequence (← flowItems true [] fuel))
    | .flowMappingStart =>
      let id ← openCollection p mark .mapping (.mapping [])
      skip
      closeCollection id (.mapping (← flowEntries true [] fuel))
    | .blockSequenceStart =>
      if setting = .flow then missing
      else
        let id ← openCollection p mark .sequence (.sequence [])
        skip
        closeCollection id (.sequence (← blockItems [] fuel))
    | .blockMappingStart =>
      if setting = .flow then missing
      else
        let id ← openCollection p mark .mapping (.mapping [])
        skip
        closeCollection id (.mapping (← blockEntries [] fuel))
    | .blockEntry =>
      if setting = .blockOrEntries then
        let id ← openCollection p mark .sequence (.sequence [])
        closeCollection id (.sequence (← looseItems [] fuel))
      else missing
    | _ => missing
where
  /-- An empty scalar in place of the content. -/
  missing : Reader NodeId :=
    if p.anchor.isSome || p.tag.isSome then place p.anchor (scalarNode mark p true [])
    else fail .nothingHere

/-- A node, unless one of the tokens is next that may follow a missing one. -/
def nodeUnless (setting : Setting) (followers : List TokenKind) : Nat → Reader NodeId
  | 0 => fail .nothingHere
  | fuel + 1 => do
    if ← isNext followers then emptyNode else node setting fuel

/-- The items of a block sequence, `items` being those before, in reverse. -/
def blockItems (items : List NodeId) : Nat → Reader (List NodeId)
  | 0 => fail .nothingHere
  | fuel + 1 => do
    match ← kind with
    | .blockEntry =>
      skip
      let item ← nodeUnless .block [.blockEntry, .blockEnd] fuel
      blockItems (item :: items) fuel
    | .blockEnd =>
      skip
      return items.reverse
    | _ => fail .blockEnd

/-- The items of a block sequence at the column of the mapping around it. -/
def looseItems (items : List NodeId) : Nat → Reader (List NodeId)
  | 0 => fail .nothingHere
  | fuel + 1 => do
    match ← kind with
    | .blockEntry =>
      skip
      let item ← nodeUnless .block [.blockEntry, .key, .value, .blockEnd] fuel
      looseItems (item :: items) fuel
    | _ => return items.reverse

def blockEntries (entries : List Entry) : Nat → Reader (List Entry)
  | 0 => fail .nothingHere
  | fuel + 1 => do
    match ← kind with
    | .key =>
      skip
      let key ← nodeUnless .blockOrEntries [.key, .value, .blockEnd] fuel
      let value ← blockValue fuel
      blockEntries ((key, value) :: entries) fuel
    | .blockEnd =>
      skip
      return entries.reverse
    | _ => fail .blockEnd

def blockValue : Nat → Reader NodeId
  | 0 => fail .nothingHere
  | fuel + 1 => do
    if ← isNext [.value] then
      skip
      nodeUnless .blockOrEntries [.key, .value, .blockEnd] fuel
    else emptyNode

/-- The items of a flow sequence. An item that is a key makes a mapping of one entry. -/
def flowItems (first : Bool) (items : List NodeId) : Nat → Reader (List NodeId)
  | 0 => fail .nothingHere
  | fuel + 1 => do
    if ← isNext [.flowSequenceEnd] then
      skip
      return items.reverse
    else
      if !first then
        if ← isNext [.flowEntry] then skip else fail .flowEnd
      match ← kind with
      | .key =>
        let mark := (← peek).mark
        let id ← openCollection ⟨none, none⟩ mark .mapping (.mapping [])
        skip
        let key ← nodeUnless .flow [.value, .flowEntry, .flowSequenceEnd] fuel
        let value ← flowValue [.flowEntry, .flowSequenceEnd] fuel
        let id ← closeCollection id (.mapping [(key, value)])
        flowItems false (id :: items) fuel
      | .flowSequenceEnd =>
        skip
        return items.reverse
      | _ =>
        let item ← node .flow fuel
        flowItems false (item :: items) fuel

def flowEntries (first : Bool) (entries : List Entry) : Nat → Reader (List Entry)
  | 0 => fail .nothingHere
  | fuel + 1 => do
    if ← isNext [.flowMappingEnd] then
      skip
      return entries.reverse
    else
      if !first then
        if ← isNext [.flowEntry] then skip else fail .flowEnd
      match ← kind with
      | .key =>
        skip
        let key ← nodeUnless .flow [.value, .flowEntry, .flowMappingEnd] fuel
        let value ← flowValue [.flowEntry, .flowMappingEnd] fuel
        flowEntries false ((key, value) :: entries) fuel
      | .flowMappingEnd =>
        skip
        return entries.reverse
      | _ =>
        let key ← node .flow fuel
        let value ← emptyNode
        flowEntries false ((key, value) :: entries) fuel

def flowValue (followers : List TokenKind) : Nat → Reader NodeId
  | 0 => fail .nothingHere
  | fuel + 1 => do
    if ← isNext [.value] then
      skip
      nodeUnless .flow followers fuel
    else emptyNode

end

/-! ### Documents -/

/-- The handles that need no declaration. -/
def standardHandles : List (String × String) := [("!", "!"), ("!!", standardStart)]

/-- The directives before a document: the declared handles. -/
def directives : Nat → Bool → List (String × String) → Reader (List (String × String))
  | 0, _, _ => fail .nothingHere
  | fuel + 1, versioned, handles => do
    match ← kind with
    | .directive (.version major) =>
      if versioned then fail .repeatedDirective
      else if major ≠ 1 then fail .version
      else
        skip
        directives fuel true handles
    | .directive (.tag handle expansion) =>
      if (handles.lookup handle).isSome then fail .repeatedHandle
      else
        skip
        directives fuel versioned ((handle, expansion) :: handles)
    | .directive .other =>
      skip
      directives fuel versioned handles
    | _ => return handles

def skipDocumentEnds : Nat → Reader Unit
  | 0 => fail .nothingHere
  | fuel + 1 => do
    if ← isNext [.documentEnd] then
      skip
      skipDocumentEnds fuel

def explicitDocument (fuel : Nat) : Reader NodeId := do
  let declared ← directives fuel false []
  modify fun r => { r with handles := declared ++ standardHandles }
  if ← isNext [.documentStart] then
    skip
    match ← kind with
    | .directive _ | .documentStart | .documentEnd | .streamEnd => emptyNode
    | _ => node .block fuel
  else fail .documentStart

/-- The only document of a text, if there is one. The directives of another are read before it is
refused. -/
def document (fuel : Nat) : Reader (Option Tree) := do
  let root ← match ← kind with
    | .directive _ | .documentStart => some <$> explicitDocument fuel
    | .streamEnd => pure none
    | _ => some <$> node .block fuel
  skipDocumentEnds fuel
  if ← isNext [.streamEnd] then
    let r ← get
    return root.map fun root => ⟨r.graph, root⟩
  else
    let _ ← directives fuel false []
    if ← isNext [.documentStart] then fail .severalDocuments else fail .documentStart

end TokenReader

/-- The only document of a text, out of its tokens and the error that stops them. -/
def Tree.ofTokens [Depths] (tokens : List Token) (stop : Option Fault) :
    Except Fault (Option Tree) :=
  (TokenReader.document (4 * tokens.length + 8)).run'
    ⟨tokens, stop, TokenReader.standardHandles, [], .empty, 0⟩

end DeployScript.Yaml
