import DeployScript.Text.Basic
import DeployScript.Text.Literal

/-!
# Styling

A terminal takes some sequences of characters as styling: an escape and a bracket, any number of
parameters, any number of intermediates, and one final character. A text that is shown without a
terminal loses them.
-/

namespace DeployScript.Text

/-- A parameter of a styling sequence: a digit or one of the six signs after the digits. -/
def isStyleParameter (c : Char) : Bool := '0' ≤ c && c ≤ '?'

/-- An intermediate of a styling sequence: a space or one of the signs before the digits. -/
def isStyleIntermediate (c : Char) : Bool := ' ' ≤ c && c ≤ '/'

/-- A character that ends a styling sequence: a letter or one of the signs around the letters. -/
def isStyleFinal (c : Char) : Bool := '@' ≤ c && c ≤ '~'

/-- What is left after a styling sequence, if the text starts with one. -/
def afterStyle? (t : Text) : Option Text :=
  (dropWord? "\x1b[" t).bind fun inside =>
    match (inside.dropWhile (CodePoint.is isStyleParameter)).dropWhile
        (CodePoint.is isStyleIntermediate) with
    | final :: rest => if final.is isStyleFinal then some rest else none
    | [] => none

theorem length_of_afterStyle? {t rest : Text} (h : afterStyle? t = some rest) :
    rest.length < t.length := by
  simp only [afterStyle?, Option.bind_eq_some_iff] at h
  obtain ⟨inside, h₁, h₂⟩ := h
  have l₁ := length_of_dropWord? h₁
  have l₂ := length_dropWhile_le (CodePoint.is isStyleParameter) inside
  have l₃ := length_dropWhile_le (CodePoint.is isStyleIntermediate)
    (inside.dropWhile (CodePoint.is isStyleParameter))
  split at h₂
  · next c after heq =>
    split at h₂
    · simp only [Option.some.injEq] at h₂
      subst h₂
      simp only [heq, List.length_cons] at l₃
      omega
    · simp at h₂
  · simp at h₂

/-- The text without styling sequences. -/
def withoutStyle (t : Text) : Text :=
  match _h : afterStyle? t with
  | some rest => withoutStyle rest
  | none =>
    match t with
    | [] => []
    | p :: rest => p :: withoutStyle rest
termination_by t.length
decreasing_by
  · exact length_of_afterStyle? _h
  · simp

end DeployScript.Text
