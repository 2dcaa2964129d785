/-!
# Binary64 numbers

A time limit is a binary floating point number with 53 significant bits. A finite one is its sign
and the exact number `significand · 2 ^ exponent`; all arithmetic here is on natural numbers.

`ofRatio` rounds a quotient to the nearest such number, a tie to the even significand, and
`ofDecimal` and `ofInt?` read numbers through it.
-/

namespace DeployScript.Numeric

def power (base n : Nat) : Nat := Nat.pow base n

/-- A binary floating point number with 53 significant bits. -/
inductive Binary64 where
  | finite (negative : Bool) (significand : Nat) (exponent : Int)
  | infinite (negative : Bool)
  | nan
deriving DecidableEq, Repr

namespace Binary64

def precision : Nat := 53

/-- The exponent of the smallest steps. -/
def minExponent : Int := -1074

/-- The exponent of the largest steps. -/
def maxExponent : Int := 971

def zero (negative : Bool) : Binary64 := .finite negative 0 minExponent

/-- The quotient rounded to the nearest natural number, a tie to the even one. -/
def roundDiv (num den : Nat) : Nat :=
  let q := num / den
  let r := num % den
  if 2 * r < den then q
  else if den < 2 * r then q + 1
  else if q % 2 = 0 then q else q + 1

/-- `num / den` in steps of `2 ^ exponent`, as a quotient of natural numbers. -/
def inSteps (num den : Nat) (exponent : Int) : Nat × Nat :=
  (num * power 2 (-exponent).toNat, den * power 2 exponent.toNat)

/-- The exponent of the steps that `num / den` is rounded to: the quotient fills the precision,
unless the steps would get smaller than the smallest. -/
def stepExponent (num den : Nat) : Int :=
  let estimate : Int := (Nat.log2 num : Int) - Nat.log2 den - precision
  let (n, d) := inSteps num den estimate
  max (if n / d < power 2 precision then estimate else estimate + 1) minExponent

/-- The number nearest to `num / den`, a tie to the even significand. -/
def ofRatio (negative : Bool) (num den : Nat) : Binary64 :=
  if num = 0 then zero negative
  else
    let e := stepExponent num den
    let (n, d) := inSteps num den e
    let s := roundDiv n d
    let (s, e) := if s = power 2 precision then (power 2 (precision - 1), e + 1) else (s, e)
    if e > maxExponent then .infinite negative else .finite negative s e

/-- No decimal of this many digits before its point is finite. -/
def decimalLimit : Int := 400

/-- The number nearest to `digits · 10 ^ exponent`. A decimal that is far out of range is not
multiplied out. -/
def ofDecimal (negative : Bool) (digits : Nat) (exponent : Int) : Binary64 :=
  if digits = 0 then zero negative
  else
    let size : Int := (Nat.toDigits 10 digits).length + exponent
    if size > decimalLimit then .infinite negative
    else if size < -decimalLimit then zero negative
    else ofRatio negative (digits * power 10 exponent.toNat) (power 10 (-exponent).toNat)

def ofInt? (i : Int) : Option Binary64 :=
  match ofRatio (i < 0) i.natAbs 1 with
  | .infinite _ => none
  | x => some x

def toInt? : Binary64 → Option Int
  | .finite negative s e =>
    let den := power 2 (-e).toNat
    if s % den = 0 then
      let n : Int := (s / den * power 2 e.toNat : Nat)
      some (if negative then -n else n)
    else none
  | _ => none

def neg : Binary64 → Binary64
  | .finite negative s e => .finite (!negative) s e
  | .infinite negative => .infinite (!negative)
  | .nan => .nan

end Binary64

end DeployScript.Numeric
