/-!
# Character classes given by code point ranges

A class of characters beyond ASCII is a list of inclusive ranges of code points, in increasing
order. The tables beside this file list one class each.
-/

namespace DeployScript.Text

/-- Inclusive ranges of code points, in increasing order. -/
abbrev Ranges := List (Nat × Nat)

def Ranges.contains (table : Ranges) (c : Char) : Bool :=
  table.any fun range => range.1 ≤ c.toNat && c.toNat ≤ range.2

end DeployScript.Text
