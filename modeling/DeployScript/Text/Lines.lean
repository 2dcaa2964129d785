/-!
# Line ends

A file may end its lines by a line feed, a carriage return or both; once read, every line ends by a
line feed alone.
-/

namespace DeployScript.Text

/-- Every carriage return, and every carriage return followed by a line feed, as one line feed. -/
def unifyLineEnds : List Char → List Char
  | [] => []
  | '\r' :: '\n' :: rest => '\n' :: unifyLineEnds rest
  | c :: rest => (if c = '\r' then '\n' else c) :: unifyLineEnds rest

/-- The text that the bytes of a file hold, with its line ends unified; `none` if the bytes are not
UTF-8. -/
def ofBytes? (bytes : ByteArray) : Option String :=
  (String.fromUTF8? bytes).map fun text => String.ofList (unifyLineEnds text.toList)

end DeployScript.Text
