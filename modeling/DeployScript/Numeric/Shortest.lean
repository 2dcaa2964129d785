import DeployScript.Numeric.Binary64

/-!
# The shortest decimal of a number

A number is written with the fewest digits that read back as it. `Binary64.shortest` finds them: on
the grid of decimals with `n` digits only the two neighbours of the number can be nearest to it, so
for `n` from one to seventeen both are tried, and the first grid with one that reads back wins; of
two the nearer is taken, and of two equally near the even one.

`Binary64.toText` then sets the point: positional from `0.0001` up to below `10 ^ 16`, always with
a digit after the point, and with an exponent of at least two digits elsewhere.
-/

namespace DeployScript.Numeric.Binary64

/-- A decimal `digits · 10 ^ exponent`. -/
structure Decimal where
  digits : Nat
  exponent : Int
deriving DecidableEq, Repr

/-- The reals that round to a positive finite number, in units of a quarter step: the number itself
and the two ends, with the lower end nearer where the steps below are half as wide. -/
structure Interval where
  low : Nat
  value : Nat
  high : Nat
  /-- The exponent of the unit. -/
  exponent : Int
  /-- Do the ends round to the number too? -/
  closed : Bool
deriving Repr

/-- The interval of `significand · 2 ^ exponent`. -/
def interval (significand : Nat) (exponent : Int) : Interval :=
  let narrow := significand == power 2 (precision - 1) && exponent > minExponent
  { low := 4 * significand - (if narrow then 1 else 2)
    value := 4 * significand
    high := 4 * significand + 2
    exponent := exponent - 2
    closed := significand % 2 == 0 }

/-- The two factors that bring a multiple of `2 ^ binary` and one of `10 ^ decimal` to a common
unit. -/
def commonUnit (binary decimal : Int) : Nat × Nat :=
  (power 2 binary.toNat * power 10 (-decimal).toNat,
    power 10 decimal.toNat * power 2 (-binary).toNat)

/-- Does `digits · 10 ^ exponent` read back as the number? -/
def Interval.holds (i : Interval) (digits : Nat) (exponent : Int) : Bool :=
  let (p, q) := commonUnit i.exponent exponent
  let point := digits * q
  if i.closed then i.low * p ≤ point && point ≤ i.high * p
  else i.low * p < point && point < i.high * p

/-- The digits on the grid of multiples of `10 ^ exponent` that read back as the number. -/
def Interval.onGrid? (i : Interval) (exponent : Int) : Option Nat :=
  let (p, q) := commonUnit i.exponent exponent
  let v := i.value * p
  let below := v / q
  let gap := v - below * q
  match i.holds below exponent, i.holds (below + 1) exponent with
  | true, false => some below
  | false, true => some (below + 1)
  | false, false => none
  | true, true =>
    if 2 * gap < q then some below
    else if q < 2 * gap then some (below + 1)
    else if below % 2 = 0 then some below else some (below + 1)

/-- The exponent of the leading decimal digit of `significand · 2 ^ exponent`. -/
def leadingExponent (significand : Nat) (exponent : Int) : Int :=
  let estimate := ((Nat.log2 significand : Int) + exponent) * 30103 / 100000
  let atLeast (k : Int) : Bool :=
    let (p, q) := commonUnit exponent k
    q ≤ significand * p
  if atLeast (estimate + 1) then estimate + 1
  else if atLeast estimate then estimate
  else estimate - 1

/-- Tries grids of one digit more each, `fuel` of them. -/
def searchGrids (i : Interval) : Nat → Int → Decimal
  | 0, exponent => ⟨0, exponent⟩
  | fuel + 1, exponent =>
    match i.onGrid? exponent with
    | some digits => ⟨digits, exponent⟩
    | none => searchGrids i fuel (exponent - 1)

/-- The shortest decimal that reads back as `significand · 2 ^ exponent`. -/
def shortest (significand : Nat) (exponent : Int) : Decimal :=
  searchGrids (interval significand exponent) 17 (leadingExponent significand exponent)

/-- How numbers are written. -/
structure Style where
  /-- The least exponent of the leading digit that is written positionally. -/
  minPositional : Int
  /-- The least exponent above it that is not. -/
  maxPositional : Int
  /-- The least number of digits of an exponent. -/
  exponentWidth : Nat

/-- Positional from `0.0001` up to below `10 ^ 16`; exponents of two digits or more. -/
def textStyle : Style := ⟨-4, 16, 2⟩

/-- `cs` with zeros in front up to a width. -/
def padZeros (width : Nat) (cs : List Char) : List Char :=
  List.replicate (width - cs.length) '0' ++ cs

def Decimal.toChars (style : Style) (d : Decimal) : List Char :=
  let ds := Nat.toDigits 10 d.digits
  let ds := (ds.reverse.dropWhile (· == '0')).reverse
  let leading : Int := d.exponent + (Nat.toDigits 10 d.digits).length - 1
  if style.minPositional ≤ leading ∧ leading < style.maxPositional then
    if leading < 0 then
      '0' :: '.' :: (List.replicate (-leading - 1).toNat '0' ++ ds)
    else
      let whole := leading.toNat + 1
      let fraction := ds.drop whole
      ds.take whole ++ List.replicate (whole - ds.length) '0' ++
        '.' :: (if fraction.isEmpty then ['0'] else fraction)
  else
    let mantissa := match ds with
      | [] => ['0']
      | [c] => [c]
      | c :: rest => c :: '.' :: rest
    let sign := if leading < 0 then '-' else '+'
    mantissa ++ 'e' :: sign :: padZeros style.exponentWidth (Nat.toDigits 10 leading.natAbs)

def toText : Binary64 → String
  | .nan => "nan"
  | .infinite negative => if negative then "-inf" else "inf"
  | .finite negative s e =>
    let body := if s = 0 then ['0', '.', '0'] else (shortest s e).toChars textStyle
    String.ofList (if negative then '-' :: body else body)

end DeployScript.Numeric.Binary64
