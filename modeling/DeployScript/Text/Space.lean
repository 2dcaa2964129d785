import DeployScript.Text.Ranges

/-!
# White space

Four classes are kept apart. A *blank* is a space or a tab: the only thing that may stand around the
slashes of a conditional marker. A *plain space* is one of the six spaces of ASCII. *White space* is
what Unicode counts as such. A *space* is white space or one of the four separators of ASCII, and is
what `trim` takes off the output of a program at both ends.
-/

namespace DeployScript.Text

def isBlank (c : Char) : Bool := c == ' ' || c == '\t'

/-- A space, a tab, or one of the four line and page ends between tab and space. -/
def isPlainSpace (c : Char) : Bool := c == ' ' || (0x09 ≤ c.toNat && c.toNat ≤ 0x0d)

def whiteRanges : Ranges :=
  [(0x09, 0x0d), (0x20, 0x20), (0x85, 0x85), (0xa0, 0xa0), (0x1680, 0x1680), (0x2000, 0x200a),
    (0x2028, 0x2029), (0x202f, 0x202f), (0x205f, 0x205f), (0x3000, 0x3000)]

def isWhite (c : Char) : Bool := whiteRanges.contains c

/-- One of the four separators of ASCII, from that of files to that of units. -/
def isSeparator (c : Char) : Bool := 0x1c ≤ c.toNat && c.toNat ≤ 0x1f

def isSpace (c : Char) : Bool := isWhite c || isSeparator c

def dropStart (p : Char → Bool) (cs : List Char) : List Char := cs.dropWhile p

def dropEnd (p : Char → Bool) (cs : List Char) : List Char := (cs.reverse.dropWhile p).reverse

def dropEnds (p : Char → Bool) (cs : List Char) : List Char := dropEnd p (dropStart p cs)

def trim (cs : List Char) : List Char := dropEnds isSpace cs

def strip (text : String) : String := String.ofList (trim text.toList)

end DeployScript.Text
