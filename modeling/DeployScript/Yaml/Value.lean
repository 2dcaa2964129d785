import DeployScript.Yaml.Merge
import DeployScript.Yaml.Node.Reader
import DeployScript.Yaml.Scalar
import DeployScript.Yaml.Token.Lexer

/-!
# From YAML texts to documents

`Yaml.read` reads a text as a document. The nodes of the text are looked at one after another: a
scalar is read at once, and a collection waits until all those before it are done, so that the
collections of one level are looked through before those of the next. The first fault counts. Every
node is looked at once, and what it was then it stays.

Since a collection may be reached from itself, the document shows collections only down to a depth
that the caller gives.
-/

namespace DeployScript.Yaml

def Tag.isCollection : Tag → Bool
  | .sequence | .mapping | .set | .orderedMap | .pairs => true
  | _ => false

/-! ### Scalars -/

/-- The text of a node that is to be a scalar: its own, or for a mapping the one under `=`, which
may be that of a mapping again. -/
def scalarText (g : Graph) : Nat → NodeId → Except Fault Text
  | 0, _ => .error (.crash .nestedTooDeeply)
  | fuel + 1, id =>
    match g.content id with
    | .scalar text => .ok text
    | .sequence _ => .error (.problem .wrongNode (g.mark id))
    | .mapping entries =>
      match entries.find? fun entry => g.tag entry.1 == .value with
      | some entry => scalarText g fuel entry.2
      | none => .error (.problem .wrongNode (g.mark id))

/-- Does the node hold a text itself? -/
def Graph.holdsText (g : Graph) (id : NodeId) : Bool :=
  match g.content id with
  | .scalar _ => true
  | _ => false

/-! ### Looking at nodes -/

variable [Depths]

/-- What a node was found to be. -/
inductive Finding where
  /-- A scalar with its value; `isNan` tells that it is a number written as no number. -/
  | scalar (value : Document) (isNan : Bool)
  /-- A collection that waits to be looked through. -/
  | waiting
  | list (items : List NodeId)
  | mapping (entries : List Entry)
  /-- A list of pairs. -/
  | pairs (entries : List Entry)
  | set (members : List NodeId)

/-- What a node is whose tag is not that of a collection. -/
def plainFinding (g : Graph) (id : NodeId) : Except Fault Finding :=
  match g.tag id with
  | .other _ | .merge | .value => .error (.problem .unknownTag (g.mark id))
  | tag => do
    let text ← scalarText g Depths.standIns id
    if tag = .timestamp && !g.holdsText id then .error (.crash .dateOfMapping)
    else
      let value ← scalarValue (g.mark id) tag text
      return .scalar value (tag == .float && text.chars?.any isNanWord)

/-- What is known while the nodes are looked at. -/
structure Survey where
  graph : Graph
  /-- What was found so far, under the number of each node. -/
  findings : Array (Option Finding)
  /-- The collections that wait, the last one first. -/
  waiting : List NodeId

namespace Survey

def ofGraph (graph : Graph) : Survey := ⟨graph, .replicate graph.size none, []⟩

def finding? (s : Survey) (id : NodeId) : Option Finding := s.findings.getD id none

def note (s : Survey) (id : NodeId) (f : Finding) : Survey :=
  { s with findings := s.findings.setIfInBounds id (some f) }

def look (s : Survey) (id : NodeId) : Except Fault Survey :=
  if (s.finding? id).isSome then .ok s
  else if (s.graph.tag id).isCollection then
    .ok { s.note id .waiting with waiting := id :: s.waiting }
  else (plainFinding s.graph id).map (s.note id)

/-- Looks at a node that is to be a key, and must not be a collection. -/
def lookKey (s : Survey) (id : NodeId) : Except Fault Survey := do
  let s ← s.look id
  match s.finding? id with
  | some (.scalar ..) => return s
  | _ => .error (.problem .unhashableKey (s.graph.mark id))

def lookEntry (s : Survey) (entry : Entry) : Except Fault Survey := do
  (← s.lookKey entry.1).look entry.2

def onlyEntry? (s : Survey) (id : NodeId) : Option Entry :=
  match s.graph.content id with
  | .mapping [entry] => some entry
  | _ => none

/-- Looks at an item of a list of pairs, which has to be a mapping of one entry, after those that
gave `pairs`. -/
def lookPair (found : Survey × List Entry) (item : NodeId) : Except Fault (Survey × List Entry) :=
  let (s, pairs) := found
  match s.onlyEntry? item with
  | none => .error (.problem .wrongNode (s.graph.mark item))
  | some entry => do
    let s ← s.look entry.1
    let s ← s.look entry.2
    return (s, pairs ++ [entry])

/-- Are the keys that two nodes give the same? A node gives the same key each time, and so does the
word for no number, although no number equals it. -/
def isSameKey (s : Survey) (a b : NodeId) : Bool :=
  a == b || match s.finding? a, s.finding? b with
    | some (.scalar x xIsNan), some (.scalar y yIsNan) => xIsNan && yIsNan || x.isSameKey y
    | _, _ => false

def lookEntries (s : Survey) (id : NodeId) : Except Fault (Survey × List Entry) := do
  let graph ← s.graph.merge id
  let entries := graph.entries id
  let s ← entries.foldlM lookEntry { s with graph }
  return (s, entries)

def lookThrough (s : Survey) (id : NodeId) : Except Fault Survey :=
  match s.graph.tag id, s.graph.content id with
  | .sequence, .sequence items => do return (← items.foldlM look s).note id (.list items)
  | .orderedMap, .sequence items | .pairs, .sequence items => do
    let (s, pairs) ← items.foldlM lookPair (s, [])
    return s.note id (.pairs pairs)
  | .mapping, .mapping _ => do
    let (s, entries) ← s.lookEntries id
    return s.note id (.mapping entries)
  | .set, .mapping _ => do
    let (s, entries) ← s.lookEntries id
    return s.note id (.set ((entries.map (·.1)).eraseDupsBy s.isSameKey))
  | _, _ => .error (.problem .wrongNode (s.graph.mark id))

/-- Looks through all collections that wait, and then through those in them, for as many levels. -/
def lookDeeper : Nat → Survey → Except Fault Survey
  | 0, s => .ok s
  | levels + 1, s =>
    if s.waiting.isEmpty then .ok s
    else do
      let deeper ← s.waiting.reverse.foldlM lookThrough { s with waiting := [] }
      lookDeeper levels deeper

def lookAll (s : Survey) (id : NodeId) : Except Fault Survey := do
  lookDeeper (s.graph.size + 1) (← s.look id)

def toDocument (s : Survey) : Nat → NodeId → Document
  | depth, id =>
    match s.finding? id, depth with
    | some (.scalar value _), _ => value
    | none, _ => .null
    | some _, 0 => .unseen
    | some .waiting, _ => .unseen
    | some (.list items), depth + 1 => .list (items.map (s.toDocument depth))
    | some (.mapping entries), depth + 1 =>
      .mapping (entries.map fun entry => (s.toDocument depth entry.1, s.toDocument depth entry.2))
    | some (.set members), depth + 1 => .set (members.map (s.toDocument depth))
    | some (.pairs entries), depth + 1 => .list <| entries.map fun entry =>
      .list [s.toDocument depth entry.1, s.toDocument depth entry.2]

end Survey

/-! ### Documents -/

def Tree.toDocument (t : Tree) (depth : Nat) : Except Fault Document := do
  let s ← (Survey.ofGraph t.graph).lookAll t.root
  return s.toDocument depth t.root

/-- The place of the first character that may not stand in a YAML text. -/
def firstUnprintable? (cs : List Char) : Option Mark :=
  if cs.all isAllowed then none
  else
    let c := (Cursor.ofText cs).skip isAllowed
    some c.mark

/-- Reads a text as YAML down to a depth; an empty text is nothing. -/
def read (depth : Nat) (text : String) : Except Fault Document := do
  let cs := text.toList
  match firstUnprintable? cs with
  | some place => .error (.problem .unprintable place)
  | none =>
    let (tokens, stop) := tokens cs
    match ← Tree.ofTokens tokens.toList stop with
    | none => return .null
    | some tree => tree.toDocument depth

end DeployScript.Yaml
