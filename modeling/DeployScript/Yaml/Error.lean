import DeployScript.Crash

/-!
# Errors in YAML texts

What can be wrong with a text that is to be read as YAML, and where. A text can also hold a scalar
that is of the kind it says and still cannot be converted; that is a crash and not an error.
-/

namespace DeployScript.Yaml

/-- A place in a text: line and column, both counted from zero. -/
structure Mark where
  line : Nat
  column : Nat
deriving DecidableEq, Repr

inductive Problem where
  | unprintable
  | badStart
  | missingColon
  | sequenceHere
  | keyHere
  | valueHere
  | directiveName
  | directiveValue
  | directiveEnd
  | anchorName
  | anchorEnd
  | tagHandle
  | tagUri
  | tagEnd
  | blockHeader
  | openQuote
  | documentInQuote
  | escape
  | nothingHere
  | blockEnd
  | flowEnd
  | documentStart
  | repeatedDirective
  | version
  | repeatedHandle
  | unknownHandle
  | unknownAlias
  | repeatedAnchor
  | severalDocuments
  | wrongNode
  | unhashableKey
  | mergeValue
  | unknownTag
  | base64
deriving DecidableEq, Repr

def Problem.message : Problem → String
  | .unprintable => "a character is not printable"
  | .badStart => "no token starts with this character"
  | .missingColon => "a key has no colon after it"
  | .sequenceHere => "a sequence entry is not allowed here"
  | .keyHere => "a mapping key is not allowed here"
  | .valueHere => "a mapping value is not allowed here"
  | .directiveName => "a directive has no name"
  | .directiveValue => "a directive has no valid value"
  | .directiveEnd => "something follows a directive"
  | .anchorName => "an anchor or alias has no name"
  | .anchorEnd => "something follows the name of an anchor or alias"
  | .tagHandle => "a tag handle is not closed"
  | .tagUri => "a tag has no valid name"
  | .tagEnd => "something follows a tag"
  | .blockHeader => "the header of a block scalar is not valid"
  | .openQuote => "a quoted scalar is not closed"
  | .documentInQuote => "a document ends inside a quoted scalar"
  | .escape => "an escape is not valid"
  | .nothingHere => "a node is missing"
  | .blockEnd => "a block collection goes on where it should end"
  | .flowEnd => "a flow collection is not closed"
  | .documentStart => "a document should start here"
  | .repeatedDirective => "a directive is repeated"
  | .version => "the version is not supported"
  | .repeatedHandle => "a tag handle is declared twice"
  | .unknownHandle => "a tag handle is not declared"
  | .unknownAlias => "an alias has no anchor"
  | .repeatedAnchor => "an anchor is set twice"
  | .severalDocuments => "there is more than one document"
  | .wrongNode => "the tag does not fit its node"
  | .unhashableKey => "a collection cannot be a key"
  | .mergeValue => "only mappings can be merged"
  | .unknownTag => "the tag is not known"
  | .base64 => "binary data is not valid"

/-- Why a text is not read as YAML: a problem at a place, or a crash. -/
inductive Fault where
  | problem (what : Problem) (place : Mark)
  | crash (crash : Crash)
deriving DecidableEq, Repr

def problemMessage (what : Problem) (place : Mark) : String :=
  s!"{what.message}: line {place.line + 1}, column {place.column + 1}"

end DeployScript.Yaml
