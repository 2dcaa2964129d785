import DeployScript.Depths
import DeployScript.Yaml.Node

/-!
# Merged mappings

A mapping takes over the entries of the mappings under its keys `<<`. They come before its own ones,
and those of a list of mappings in the reverse of its order. A key `=` of a mapping is a text.

Merging changes the graph in place, so that a mapping is merged once wherever it is referred to. A
mapping may be met again while it is being merged. A key `<<` is taken out before its value is
looked at, so that there are fewer of them each time and merging comes to an end.
-/

namespace DeployScript.Yaml

namespace Graph

/-- The first entry with a key `<<`, as its value, and the other entries. -/
def takeMerge? (g : Graph) : List Entry → Option (NodeId × List Entry)
  | [] => none
  | entry :: rest =>
    if g.tag entry.1 = .merge then some (entry.2, rest)
    else (takeMerge? g rest).map fun (value, others) => (value, entry :: others)

/-- A key that is meant as `=` becomes a text. -/
def textKey (g : Graph) (key : NodeId) : Graph :=
  if g.tag key = .value then g.setTag key .text else g

def textKeys (g : Graph) (id : NodeId) : Graph :=
  (g.entries id).foldl (fun g entry => g.textKey entry.1) g

mutual

/-- Merges a mapping that may take over from `room` more inside each other; `taken` is what it has
taken over so far. -/
def mergeInto : Nat → Nat → Graph → NodeId → List Entry → Except Fault Graph
  | 0, _, g, _, _ => .ok g
  | fuel + 1, room, g, id, taken =>
    match g.takeMerge? (g.entries id) with
    | none =>
      let g := g.textKeys id
      .ok (if taken.isEmpty then g else g.setContent id (.mapping (taken ++ g.entries id)))
    | some (value, others) => do
      let (g, more) ← takeOver fuel room (g.setContent id (.mapping others)) value
      mergeInto fuel room g id (taken ++ more)

/-- The entries that a mapping takes over from a node under a key `<<`. -/
def takeOver : Nat → Nat → Graph → NodeId → Except Fault (Graph × List Entry)
  | 0, _, g, _ => .ok (g, [])
  | fuel + 1, room, g, value =>
    match g.content value with
    | .mapping _ => takeMapping fuel room g value
    | .sequence items => takeAll fuel room g items
    | .scalar _ => .error (.problem .mergeValue (g.mark value))

/-- The entries of a mapping, merged. -/
def takeMapping : Nat → Nat → Graph → NodeId → Except Fault (Graph × List Entry)
  | 0, _, g, _ => .ok (g, [])
  | _ + 1, 0, _, _ => .error (.crash .nestedTooDeeply)
  | fuel + 1, room + 1, g, id => do
    let g ← mergeInto fuel room g id []
    return (g, g.entries id)

/-- The entries of a list of mappings, those of the last one first. -/
def takeAll : Nat → Nat → Graph → List NodeId → Except Fault (Graph × List Entry)
  | 0, _, g, _ => .ok (g, [])
  | _ + 1, _, g, [] => .ok (g, [])
  | fuel + 1, room, g, item :: rest =>
    match g.content item with
    | .mapping _ => do
      let (g, entries) ← takeMapping fuel room g item
      let (g, more) ← takeAll fuel room g rest
      return (g, more ++ entries)
    | _ => .error (.problem .mergeValue (g.mark item))

end

/-- The nodes, items and entries of the graph, counted from one. -/
def extent (g : Graph) : Nat :=
  g.nodes.foldl (fun n node => n + 1 + match node.content with
    | .sequence items => items.length
    | .mapping entries => entries.length
    | .scalar _ => 0) 1

/-- How many steps merging may take: a list may be gone through for every key `<<`. -/
def mergeFuel (g : Graph) : Nat := 4 * g.extent * g.extent

def merge [Depths] (g : Graph) (id : NodeId) : Except Fault Graph :=
  g.mergeInto g.mergeFuel Depths.merged id []

end Graph

end DeployScript.Yaml
