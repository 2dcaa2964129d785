import DeployScript.Document
import DeployScript.Numeric.Reader

/-!
# Validation

Turning a document into a value of the domain either succeeds or tells every issue with it, each
with its place in the document: the issues of all fields of a record, in the order of its fields,
and of all items of a list. Scalars are taken as they are meant: the word `yes` is a flag and the
text `"2.5"` a number.
-/

namespace DeployScript.Validation

open DeployScript.Numeric (Binary64)

/-! ### Issues -/

/-- A step from a document to a part of it. -/
inductive Segment where
  | field (name : String)
  | index (position : Nat)
deriving DecidableEq, Repr

def Segment.text : Segment → String
  | .field name => name
  | .index position => toString position

/-- What can be wrong at a place. -/
inductive Problem where
  | missing
  | notText
  | brokenText
  | notTuple
  | notList
  | notRecord
  | notFlag
  /-- A scalar that could be a flag but is none. -/
  | unknownFlag
  | notNumber
  /-- A text that is no number. -/
  | unreadableNumber
deriving DecidableEq, Repr

def Problem.text : Problem → String
  | .missing => "a value is required"
  | .notText => "a text is required"
  | .brokenText => "the text is not valid Unicode"
  | .notTuple => "a list is required"
  | .notList => "a list is required"
  | .notRecord => "a mapping is required"
  | .notFlag => "a flag is required"
  | .unknownFlag => "the value is neither a true nor a false flag"
  | .notNumber => "a number is required"
  | .unreadableNumber => "the text is not a number"

/-- A problem and its place. -/
structure Issue where
  location : List Segment
  problem : Problem
deriving DecidableEq, Repr

def Issue.place (i : Issue) : String := ".".intercalate (i.location.map Segment.text)

def Issue.message (i : Issue) : String := s!"{i.place}: {i.problem.text}"

/-- All issues, one a line. -/
def messages (issues : List Issue) : String := "\n".intercalate (issues.map Issue.message)

/-! ### Combining checks -/

/-- A value, or all that is wrong with the document it was to come from. -/
abbrev Checked (α : Type) := Except (List Issue) α

def fail {α : Type} (problem : Problem) : Checked α := .error [⟨[], problem⟩]

/-- The same check, its issues seen from one step above. -/
def Checked.under {α : Type} (segment : Segment) (c : Checked α) : Checked α :=
  c.mapError fun issues => issues.map fun i => { i with location := segment :: i.location }

/-- Both values, or the issues of both checks. -/
def Checked.both {α β : Type} (a : Checked α) (b : Checked β) : Checked (α × β) :=
  match a, b with
  | .ok x, .ok y => .ok (x, y)
  | .ok _, .error e => .error e
  | .error e, .ok _ => .error e
  | .error e, .error e' => .error (e ++ e')

/-- The values of all items, counted from `position`, or all their issues. -/
def items {α : Type} (check : Document → Checked α) : Nat → List Document → Checked (List α)
  | _, [] => .ok []
  | position, item :: rest =>
    (Checked.both (.under (.index position) (check item)) (items check (position + 1) rest)).map
      fun (x, xs) => x :: xs

/-! ### Scalars -/

def text (d : Document) : Checked Text :=
  match d with
  | .text t => .ok t
  | .bytes b => match String.fromUTF8? b with
    | some s => .ok s
    | none => fail .brokenText
  | _ => fail .notText

/-- A text that another value is to be read from; `unreadable` tells what is wrong with bytes that
are no text, and `other` with anything else. -/
def source (unreadable other : Problem) (d : Document) : Checked String :=
  match d with
  | .text t => match t.string? with
    | some s => .ok s
    | none => fail .brokenText
  | .bytes b => match String.fromUTF8? b with
    | some s => .ok s
    | none => fail unreadable
  | _ => fail other

/-- Nothing, or what `check` finds. -/
def nullable {α : Type} (check : Document → Checked α) : Document → Checked (Option α)
  | .null => .ok none
  | d => (check d).map some

def trueWords : List String := ["1", "t", "y", "yes", "on", "true"]

def falseWords : List String := ["0", "f", "n", "no", "off", "false"]

/-- The flag that a word stands for, in any letter case. -/
def flagOfWord? (word : String) : Option Bool :=
  let w := String.ofList (word.toList.map Char.toLower)
  if trueWords.contains w then some true else if falseWords.contains w then some false else none

/-- The integers that are tried as flags are below this and not below its negative. -/
def flagLimit : Int := Numeric.power 2 63

/-- Is the integer tried as a flag? -/
def inFlagRange (i : Int) : Bool := -flagLimit ≤ i && i < flagLimit

def flagOfInt (i : Int) : Checked Bool :=
  if i = 0 then .ok false else if i = 1 then .ok true else fail .unknownFlag

def flag (d : Document) : Checked Bool :=
  match d with
  | .bool b => .ok b
  | .int i => if inFlagRange i then flagOfInt i else fail .notFlag
  | .number x =>
    match x.toInt? with
    | some i => if inFlagRange i && i != -flagLimit then flagOfInt i else fail .notFlag
    | none => fail .notFlag
  | _ => do
    match flagOfWord? (← source .unknownFlag .notFlag d) with
    | some b => return b
    | none => fail .unknownFlag

def number (d : Document) : Checked Binary64 :=
  match d with
  | .number x => .ok x
  | .int i => match Binary64.ofInt? i with
    | some x => .ok x
    | none => fail .notNumber
  | .bool b => .ok (.ofDecimal false b.toNat 0)
  | _ => do
    match Binary64.ofText? (← source .unreadableNumber .notNumber d) with
    | some x => return x
    | none => fail .unreadableNumber

/-! ### Lists and records -/

/-- A list of what `check` finds; `problem` tells what is wrong with anything but a list. -/
def list {α : Type} (problem : Problem) (check : Document → Checked α) :
    Document → Checked (List α)
  | .list ds => items check 0 ds
  | .set ds => items check 0 ds
  | _ => fail problem

def record : Document → Checked (List (Document × Document))
  | .mapping entries => .ok entries
  | _ => fail .notRecord

/-- A field that has to be there. -/
def required {α : Type} (entries : List (Document × Document)) (name : String)
    (check : Document → Checked α) : Checked α :=
  .under (.field name) <| match Document.lookup? name entries with
    | some d => check d
    | none => fail .missing

/-- A field with a value of its own for when it is not there. -/
def optional {α : Type} (entries : List (Document × Document)) (name : String) (fallback : α)
    (check : Document → Checked α) : Checked α :=
  match Document.lookup? name entries with
  | some d => .under (.field name) (check d)
  | none => .ok fallback

end DeployScript.Validation
