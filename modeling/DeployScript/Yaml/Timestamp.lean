import DeployScript.Document
import DeployScript.Text.Digit
import DeployScript.Yaml.Tag

/-!
# Dates and times

A timestamp is a date, with or without a time of day and a time zone. One that is written properly
may still be in no calendar. `Timestamp.toDocument` tells a time in a zone as the moment that it is,
so that two ways to write one moment give one document.
-/

namespace DeployScript.Yaml

open DeployScript.Text (ofDigits)

/-- A time of day, and if it is in a zone, the minutes by which the zone is ahead of universal
time. -/
structure TimeOfDay where
  hour : Nat
  minute : Nat
  second : Nat
  microsecond : Nat
  zone : Option Int
deriving DecidableEq, Repr

/-- A date, and a time if there is one. -/
structure Timestamp where
  year : Nat
  month : Nat
  day : Nat
  time : Option TimeOfDay
deriving DecidableEq, Repr

namespace Timestamp

def isLeapYear (year : Nat) : Bool := year % 4 == 0 && (year % 100 != 0 || year % 400 == 0)

def daysIn (year month : Nat) : Nat :=
  match month with
  | 2 => if isLeapYear year then 29 else 28
  | 4 | 6 | 9 | 11 => 30
  | _ => 31

def isRealTime (t : TimeOfDay) : Bool :=
  t.hour < 24 && t.minute < 60 && t.second < 60 && t.zone.all fun zone => zone.natAbs < 24 * 60

def isReal (t : Timestamp) : Bool :=
  1 ≤ t.year && 1 ≤ t.month && t.month ≤ 12 && 1 ≤ t.day && t.day ≤ daysIn t.year t.month &&
    t.time.all isRealTime

/-! ### Moments -/

/-- The days of all years before one, from the year 1 on. -/
def daysBeforeYear (year : Nat) : Nat :=
  let n := year - 1
  365 * n + n / 4 - n / 100 + n / 400

/-- The days of a year before a month. -/
def daysBeforeMonth (year : Nat) : Nat → Nat
  | 0 | 1 => 0
  | month + 2 => daysBeforeMonth year (month + 1) + daysIn year (month + 1)

def dayNumber (t : Timestamp) : Nat :=
  daysBeforeYear t.year + daysBeforeMonth t.year t.month + t.day

/-- The microseconds from the start of the calendar on, a time in a zone being told in universal
time. -/
def moment (t : Timestamp) (time : TimeOfDay) : Int :=
  let minutes : Int := ((t.dayNumber * 24 + time.hour) * 60 + time.minute : Nat) - time.zone.getD 0
  (minutes * 60 + time.second) * 1000000 + time.microsecond

def toDocument (t : Timestamp) : Document :=
  match t.time with
  | none => .date t.dayNumber
  | some time => .dateTime time.zone.isSome (t.moment time)

/-! ### Reading -/

def fixed? (n : Nat) (cs : List Char) : Option (Nat × List Char) :=
  let digits := cs.take n
  if digits.length = n ∧ digits.all Char.isDigit then some (ofDigits digits, cs.drop n) else none

def short? (cs : List Char) : Option (Nat × List Char) :=
  match fixed? 2 cs with
  | some found => some found
  | none => fixed? 1 cs

def after? (c : Char) : List Char → Option (List Char)
  | [] => none
  | d :: rest => if c = d then some rest else none

/-- The time zone that all of `cs` writes, and nothing if there is none. -/
def zone? (cs : List Char) : Option (Option Int) :=
  match cs.dropWhile isTimeBlank with
  | [] => if cs.isEmpty then some none else none
  | ['Z'] => some (some 0)
  | c :: rest =>
    if c = '-' ∨ c = '+' then
      let signed (minutes : Nat) : Option (Option Int) :=
        some (some (if c = '-' then -(minutes : Int) else minutes))
      (short? rest).bind fun (hours, rest) =>
        match rest with
        | [] => signed (60 * hours)
        | ':' :: rest => (fixed? 2 rest).bind fun (minutes, rest) =>
          if rest.isEmpty then signed (60 * hours + minutes) else none
        | _ => none
    else none

/-- The microseconds that the digits of a fraction write; those after the sixth do not count. -/
def microseconds (digits : List Char) : Nat := ofDigits ((digits ++ List.replicate 6 '0').take 6)

def fraction (cs : List Char) : Nat × List Char :=
  match cs with
  | '.' :: rest => (microseconds (rest.takeWhile Char.isDigit), rest.dropWhile Char.isDigit)
  | rest => (0, rest)

def time? (cs : List Char) : Option TimeOfDay := do
  let (hour, rest) ← short? cs
  let (minute, rest) ← (after? ':' rest).bind (fixed? 2)
  let (second, rest) ← (after? ':' rest).bind (fixed? 2)
  let (microsecond, rest) := fraction rest
  let zone ← zone? rest
  return ⟨hour, minute, second, microsecond, zone⟩

def afterGap? : List Char → Option (List Char)
  | [] => none
  | c :: rest =>
    if c = 'T' ∨ c = 't' then some rest
    else if isTimeBlank c then some (rest.dropWhile isTimeBlank)
    else none

/-- The timestamp that `cs` writes, one line end after it not counting. -/
def ofChars? (cs : List Char) : Option Timestamp := do
  let (year, rest) ← fixed? 4 (dropFinalLineEnd cs)
  let (month, rest) ← (after? '-' rest).bind short?
  let (day, rest) ← (after? '-' rest).bind short?
  if rest.isEmpty then return ⟨year, month, day, none⟩
  else
    let time ← (afterGap? rest).bind time?
    return ⟨year, month, day, some time⟩

end Timestamp

end DeployScript.Yaml
