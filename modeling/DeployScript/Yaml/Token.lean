import DeployScript.Yaml.Error

/-!
# YAML tokens

The parts that a YAML text falls into. Besides the marks that are written, tokens stand for where
the collections begin and end whose items are told apart by their indentation.
-/

namespace DeployScript.Yaml

inductive Directive where
  | version (major : Nat)
  | tag (handle : String) (expansion : String)
  | other
deriving DecidableEq, Repr

/-- A part of a YAML text. -/
inductive TokenKind where
  | directive (directive : Directive)
  | documentStart
  | documentEnd
  | streamEnd
  | blockSequenceStart
  | blockMappingStart
  | blockEnd
  | flowSequenceStart
  | flowSequenceEnd
  | flowMappingStart
  | flowMappingEnd
  | flowEntry
  | blockEntry
  | key
  | value
  | reference (name : String)
  | anchor (name : String)
  /-- A tag; without a handle its text is taken as it is. -/
  | tag (handle : Option String) (text : String)
  /-- A scalar; a plain one has no quotes around it and no indicator before it. -/
  | scalar (text : Text) (plain : Bool)
deriving DecidableEq, Repr

structure Token where
  kind : TokenKind
  mark : Mark
deriving DecidableEq, Repr

end DeployScript.Yaml
