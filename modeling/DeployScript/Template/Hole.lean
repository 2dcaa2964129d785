import DeployScript.Text.Basic
import DeployScript.Text.Literal

/-!
# Holes

A hole is a name in capitals, digits and underscores between two pairs of underscores, and stands
for a value. Reading from the front, a hole starts at the first two underscores with a capital
behind them and ends at the next two: `pieces` reads a text so, as a list of characters and holes.
-/

namespace DeployScript.Template

open DeployScript.Text (dropWord? length_of_dropWord?)

/-- The two underscores before and after the name of a hole. -/
def fence : List Char := ['_', '_']

def isNameChar (c : Char) : Bool := c.isUpper || c.isDigit || c == '_'

/-- The characters up to the next two underscores, if all may stand in a name, and what follows. -/
def nameRest? (cs : List Char) : Option (List Char × List Char) :=
  match dropWord? fence cs with
  | some rest => some ([], rest)
  | none =>
    match cs with
    | [] => none
    | c :: after =>
      if isNameChar c then (nameRest? after).map fun (name, rest) => (c :: name, rest) else none

/-- The name of the hole that starts here, and what follows the hole. -/
def hole? (cs : List Char) : Option (List Char × List Char) :=
  match dropWord? fence cs with
  | some (c :: after) =>
    if c.isUpper then (nameRest? after).map fun (name, rest) => (c :: name, rest) else none
  | _ => none

theorem length_of_nameRest? {cs name rest : List Char} (h : nameRest? cs = some (name, rest)) :
    cs.length = name.length + rest.length + 2 := by
  fun_induction nameRest? cs generalizing name rest with
  | case1 cs r hr =>
    simp only [Option.some.injEq, Prod.mk.injEq] at h
    obtain ⟨rfl, rfl⟩ := h
    have := length_of_dropWord? hr
    simp only [fence, List.length_cons, List.length_nil] at *
    omega
  | case2 => simp at h
  | case3 c after _ _ ih =>
    simp only [Option.map_eq_some_iff, Prod.mk.injEq] at h
    obtain ⟨⟨n, r⟩, hn, rfl, rfl⟩ := h
    have := ih hn
    simp only [List.length_cons]
    omega
  | case4 => simp at h

theorem length_of_hole? {cs name rest : List Char} (h : hole? cs = some (name, rest)) :
    cs.length = name.length + rest.length + 4 := by
  unfold hole? at h
  split at h
  · next c after hf =>
    split at h
    · simp only [Option.map_eq_some_iff, Prod.mk.injEq] at h
      obtain ⟨⟨n, r⟩, hn, rfl, rfl⟩ := h
      have l₁ := length_of_dropWord? hf
      have l₂ := length_of_nameRest? hn
      simp only [fence, List.length_cons, List.length_nil] at *
      omega
    · simp at h
  · simp at h

/-- A part of a template: a character of its own, or a hole. -/
inductive Piece where
  | char (c : Char)
  | hole (name : List Char)
deriving DecidableEq, Repr

/-- The text as characters and holes, read from the front. -/
def pieces (cs : List Char) : List Piece :=
  match _h : hole? cs with
  | some (name, rest) => .hole name :: pieces rest
  | none =>
    match cs with
    | [] => []
    | c :: rest => .char c :: pieces rest
termination_by cs.length
decreasing_by
  · have := length_of_hole? _h
    omega
  · simp

def Piece.name? : Piece → Option String
  | .char _ => none
  | .hole name => some (String.ofList name)

def holes (cs : List Char) : List String :=
  ((pieces cs).filterMap Piece.name?).eraseDups.mergeSort fun a b => decide (a ≤ b)

/-- A part with its value in place of a hole; a hole without a value leaves nothing. -/
def Piece.fill (values : String → Option Text) : Piece → Text
  | .char c => [.char c]
  | .hole name => (values (String.ofList name)).getD []

def missingValues (values : String → Option Text) (cs : List Char) : List String :=
  (holes cs).filter fun name => (values name).isNone

end DeployScript.Template
