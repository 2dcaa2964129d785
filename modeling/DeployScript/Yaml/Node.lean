import DeployScript.Yaml.Tag
import DeployScript.Yaml.Token

/-!
# YAML nodes

The nodes that a document writes form a graph: a node may be referred to from several places, also
from inside of itself. A node is known by its number in the graph, and holds the numbers of the
nodes in it.
-/

namespace DeployScript.Yaml

/-- The number of a node in its graph. -/
abbrev NodeId := Nat

/-- An entry of a mapping: its key and its value. -/
abbrev Entry := NodeId × NodeId

/-- What a node holds. -/
inductive Content where
  | scalar (text : Text)
  | sequence (items : List NodeId)
  | mapping (entries : List Entry)
deriving DecidableEq, Repr

structure Node where
  mark : Mark
  tag : Tag
  content : Content
deriving DecidableEq, Repr

def Node.empty (mark : Mark) : Node := ⟨mark, .null, .scalar []⟩

/-- The nodes of a document. -/
structure Graph where
  nodes : Array Node

namespace Graph

def empty : Graph := ⟨#[]⟩

def size (g : Graph) : Nat := g.nodes.size

/-- The node with a number; a number that is not in the graph is that of an empty scalar. -/
def node (g : Graph) (id : NodeId) : Node := g.nodes.getD id (.empty ⟨0, 0⟩)

/-- The graph with one more node, whose number is the size before. -/
def add (g : Graph) (n : Node) : Graph := ⟨g.nodes.push n⟩

def set (g : Graph) (id : NodeId) (n : Node) : Graph := ⟨g.nodes.setIfInBounds id n⟩

def tag (g : Graph) (id : NodeId) : Tag := (g.node id).tag

def mark (g : Graph) (id : NodeId) : Mark := (g.node id).mark

def content (g : Graph) (id : NodeId) : Content := (g.node id).content

def entries (g : Graph) (id : NodeId) : List Entry :=
  match g.content id with
  | .mapping entries => entries
  | _ => []

def setContent (g : Graph) (id : NodeId) (content : Content) : Graph :=
  g.set id { g.node id with content }

def setTag (g : Graph) (id : NodeId) (tag : Tag) : Graph := g.set id { g.node id with tag }

end Graph

/-- A document: its nodes, and which of them is the root. -/
structure Tree where
  graph : Graph
  root : NodeId

end DeployScript.Yaml
