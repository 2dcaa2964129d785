/-!
# Base64

Six bits to a character. What is no such character is passed over, and reading ends where enough
padding closes a group of four.
-/

namespace DeployScript.Text.Base64

/-- The six bits of a character. -/
def sextet? (c : Char) : Option Nat :=
  if 'A' ≤ c ∧ c ≤ 'Z' then some (c.toNat - 'A'.toNat)
  else if 'a' ≤ c ∧ c ≤ 'z' then some (c.toNat - 'a'.toNat + 26)
  else if '0' ≤ c ∧ c ≤ '9' then some (c.toNat - '0'.toNat + 52)
  else if c = '+' then some 62
  else if c = '/' then some 63
  else none

/-- The bytes of the characters from one on: `filled` characters of the current group are before it,
`carry` are the bits of them that are left, and `pads` are the paddings just before it. -/
def decodeFrom : Nat → Nat → Nat → List Char → Option (List UInt8)
  | filled, _, _, [] => if filled = 0 then some [] else none
  | filled, carry, pads, c :: rest =>
    if c = '=' then
      if filled ≥ 2 then
        if filled + pads + 1 ≥ 4 then some [] else decodeFrom filled carry (pads + 1) rest
      else decodeFrom filled carry pads rest
    else match sextet? c with
      | none => decodeFrom filled carry pads rest
      | some n =>
        match filled with
        | 0 => decodeFrom 1 n 0 rest
        | 1 => (decodeFrom 2 (n % 16) 0 rest).map ((carry * 4 + n / 16).toUInt8 :: ·)
        | 2 => (decodeFrom 3 (n % 4) 0 rest).map ((carry * 16 + n / 4).toUInt8 :: ·)
        | _ => (decodeFrom 0 0 0 rest).map ((carry * 64 + n).toUInt8 :: ·)

/-- The bytes that characters write; `none` if the last group is not complete. -/
def decode (cs : List Char) : Option (List UInt8) := decodeFrom 0 0 0 cs

end DeployScript.Text.Base64
