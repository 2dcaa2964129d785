import DeployScript.Numeric.Binary64

/-!
# Sums and products

The sum and the product of two numbers, calculated exactly and then rounded to the nearest.
-/

namespace DeployScript.Numeric.Binary64

/-- A finite number as an integer multiple of a power of two. -/
def signed (negative : Bool) (significand : Nat) : Int :=
  if negative then -(significand : Int) else significand

def ofScaled (n : Int) (exponent : Int) : Binary64 :=
  ofRatio (n < 0) (n.natAbs * power 2 exponent.toNat) (power 2 (-exponent).toNat)

def add : Binary64 → Binary64 → Binary64
  | .finite a m e, .finite b n f =>
    let low := min e f
    let sum := signed a m * power 2 (e - low).toNat + signed b n * power 2 (f - low).toNat
    if sum = 0 then zero (a && b) else ofScaled sum low
  | .nan, _ => .nan
  | _, .nan => .nan
  | .infinite a, .infinite b => if a = b then .infinite a else .nan
  | .infinite a, .finite .. => .infinite a
  | .finite .., .infinite b => .infinite b

def mul : Binary64 → Binary64 → Binary64
  | .finite a m e, .finite b n f =>
    if m = 0 ∨ n = 0 then zero (a != b) else ofScaled (signed (a != b) (m * n)) (e + f)
  | .nan, _ => .nan
  | _, .nan => .nan
  | .infinite a, .infinite b => .infinite (a != b)
  | .infinite a, .finite b n _ => if n = 0 then .nan else .infinite (a != b)
  | .finite a m _, .infinite b => if m = 0 then .nan else .infinite (a != b)

end DeployScript.Numeric.Binary64
