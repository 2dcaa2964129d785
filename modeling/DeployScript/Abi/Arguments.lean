import DeployScript.Abi.Basic
import DeployScript.Log.Record

/-!
# Arguments of a deployment

A deployment passes arguments to the constructor and, if the contract has one, to its `initialize`
function; of several the first counts. Both parameter lists end up in one signature, so that a
constructor parameter with the name of an initializer parameter is renamed. Initializer parameters
keep their names.
-/

namespace DeployScript.Abi

def argumentsLogger : String := "deployer_kit.core.services.abi_args"

def initializerName : String := "initialize"

/-- What a renamed parameter is marked with. -/
def renameMark : String := "c_"

/-! ### Finding the entries -/

def Entry.isConstructor (e : Entry) : Bool := e.kind == "constructor"

def Entry.isInitializer (e : Entry) : Bool :=
  e.kind == "function" && e.name == some (initializerName : Text)

def constructor? (abi : List Entry) : Option Entry := abi.find? Entry.isConstructor

def initializers (abi : List Entry) : List Entry := abi.filter Entry.isInitializer

def initializer? (abi : List Entry) : Option Entry := (initializers abi).head?

/-! ### Renaming -/

/-- What is worth telling about how the arguments were found. -/
inductive Notice where
  /-- There are `count` initializers; the first, with so many parameters, is taken. -/
  | overloads (count parameters : Nat)
  /-- A constructor parameter was renamed. -/
  | renamed (old new : Text)
deriving DecidableEq, Repr

def Notice.record : Notice → Log.Record
  | .overloads count parameters =>
    .warning argumentsLogger <|
      s!"Found {count} '{initializerName}' overloads, using the first ({parameters} parameter(s))"
  | .renamed old new =>
    .info argumentsLogger ("Renaming constructor parameter '" ++ old ++ "' to '" ++ new ++ "'")

def Parameter.renamed (p : Parameter) : Parameter := { p with name := renameMark ++ p.name }

/-- Does the parameter have the name of one of the others? -/
def Parameter.clashes (others : List Parameter) (p : Parameter) : Bool :=
  others.any fun q => q.name == p.name

/-- The constructor parameters, those renamed that have the name of an initializer parameter. -/
def disambiguate (constructor init : List Parameter) : List Parameter :=
  constructor.map fun p => if p.clashes init then p.renamed else p

def renamings (constructor init : List Parameter) : List Notice :=
  (constructor.filter (Parameter.clashes init)).map fun p => .renamed p.name p.renamed.name

/-! ### Arguments -/

/-- The parameters that a deployment has to give arguments for. -/
structure Arguments where
  constructor : List Parameter
  /-- `none` if there is no initializer. -/
  init : Option (List Parameter)
deriving DecidableEq, Repr

/-- Does the contract have an initializer? -/
def Arguments.initializable (a : Arguments) : Bool := a.init.isSome

def overloadNotices (abi : List Entry) : List Notice :=
  match initializers abi with
  | first :: _ :: rest => [.overloads (rest.length + 2) first.inputs.length]
  | _ => []

/-- The arguments of a contract with this interface. -/
def resolve (abi : List Entry) : Arguments :=
  let init := (initializer? abi).map Entry.inputs
  { constructor := match constructor? abi with
      | none => []
      | some e => match init with
        | none => e.inputs
        | some params => disambiguate e.inputs params
    init }

/-- What is worth telling about the arguments, in order. -/
def notices (abi : List Entry) : List Notice :=
  overloadNotices abi ++ match constructor? abi, initializer? abi with
    | some e, some f => renamings e.inputs f.inputs
    | _, _ => []

end DeployScript.Abi
