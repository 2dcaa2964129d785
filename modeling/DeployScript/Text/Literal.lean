/-!
# Literal text

Taking a fixed text off the front of another, whether they are lists of characters or of code
points.
-/

namespace DeployScript.Text

variable {α : Type} [DecidableEq α]

/-- What is left of `cs` after the items of `word`, if it starts with them. -/
def dropWord? : List α → List α → Option (List α)
  | [], cs => some cs
  | _ :: _, [] => none
  | w :: word, c :: cs => if w = c then dropWord? word cs else none

theorem dropWord?_eq_some_iff {word cs rest : List α} :
    dropWord? word cs = some rest ↔ cs = word ++ rest := by
  induction word generalizing cs with
  | nil => simp [dropWord?, eq_comm]
  | cons w word ih =>
    cases cs with
    | nil => simp [dropWord?]
    | cons c cs =>
      by_cases h : w = c
      · simp [dropWord?, h, ih]
      · simp [dropWord?, h, Ne.symm h]

theorem length_of_dropWord? {word cs rest : List α} (h : dropWord? word cs = some rest) :
    cs.length = word.length + rest.length := by
  simp [dropWord?_eq_some_iff.1 h]

omit [DecidableEq α] in
/-- Dropping the items of a class leaves no more than there was. -/
theorem length_dropWhile_le (p : α → Bool) (cs : List α) :
    (cs.dropWhile p).length ≤ cs.length :=
  (List.dropWhile_suffix p).length_le

end DeployScript.Text
