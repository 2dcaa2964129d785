import DeployScript.Validation

/-!
# Contract interfaces

The entries of a contract's interface, as far as a deploy script needs them: what kind of entry it
is, its name, and its parameters with their types as the compiler knows them.

`Entry.listOfArtifact` reads the interface out of a compiler artifact. A parameter tells its type
under `internalType`; under `internal_type` if that is not there; and, as older compilers do, only
under `type` if neither is.
-/

namespace DeployScript.Abi

open DeployScript.Validation (Checked)

/-- A parameter of a constructor or function. -/
structure Parameter where
  name : Text
  /-- The type inside the compiler, such as `struct Vault.Config[]`. -/
  type : Text
deriving DecidableEq, Repr

/-- A constructor, a function or another entry of an interface. -/
structure Entry where
  kind : Text
  name : Option Text
  inputs : List Parameter
deriving DecidableEq, Repr

/-! ### Reading -/

/-- The key that a parameter's type is under, and the key that an issue with it is told at. -/
def typeKey (entries : List (Document × Document)) : String × String :=
  if (Document.lookup? "internalType" entries).isSome then ("internalType", "internalType")
  else if (Document.lookup? "internal_type" entries).isSome then ("internal_type", "internal_type")
  else ("type", "internalType")

def typeOf (entries : List (Document × Document)) : Checked Text :=
  let (key, place) := typeKey entries
  .under (.field place) <| match Document.lookup? key entries with
    | some d => Validation.text d
    | none => Validation.fail .missing

def Parameter.ofDocument (d : Document) : Checked Parameter := do
  let entries ← Validation.record d
  (Checked.both (Validation.optional entries "name" [] Validation.text) (typeOf entries)).map
    fun (name, type) => ⟨name, type⟩

/-- Reads an entry. Without a kind it is a function. -/
def Entry.ofDocument (d : Document) : Checked Entry := do
  let entries ← Validation.record d
  (Checked.both (Validation.optional entries "type" (Text.ofString "function") Validation.text)
    (Checked.both (Validation.optional entries "name" none (Validation.nullable Validation.text))
      (Validation.optional entries "inputs" []
        (Validation.list .notTuple Parameter.ofDocument)))).map
    fun (kind, name, inputs) => ⟨kind, name, inputs⟩

/-- Reads the interface out of an artifact. -/
def Entry.listOfArtifact (d : Document) : Checked (List Entry) := do
  let entries ← Validation.record d
  Validation.required entries "abi" (Validation.list .notTuple Entry.ofDocument)

end DeployScript.Abi
