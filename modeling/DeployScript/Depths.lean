/-!
# How deep a run can go

Some inputs are dealt with level by level: arrays in arrays, collections in collections, a missing
directory below a missing one. How many levels there may be hangs on the room that is left where a
run is called, and not on the input. So the numbers are given from outside, and what is said of a
run is said for all of them.
-/

namespace DeployScript

/-- How many levels inside each other are dealt with. -/
class Depths where
  /-- Arrays and objects of a JSON text that are open at once. -/
  json : Nat
  /-- Collections of a YAML text that are open at once. -/
  collections : Nat
  /-- Mappings that are merged at once, each being taken over by the one before. -/
  merged : Nat
  /-- Mappings that stand for a scalar, each as the one under `=` in another. -/
  standIns : Nat
  /-- Missing directories above one that is made. -/
  directories : Nat

/-- The levels for a caller that has taken only a few of a thousand calls. -/
@[reducible] def Depths.ofThousand : Depths := ⟨986, 488, 983, 980, 984⟩

end DeployScript
