/-!
# Texts

A text is a list of code points. Most code points are characters. The others are the halves of
surrogate pairs: an escape in a file may write one alone, which is no character then. A text keeps
such a half as it is, and is called broken. It can be compared, joined and taken apart like any
other; only where it is written down as characters or bytes does it matter that it is broken.

A `String` holds characters alone, and stands for the text of them wherever a text is expected.
-/

namespace DeployScript

/-- A code point. -/
inductive CodePoint where
  /-- A character. -/
  | char (c : Char)
  /-- Half of a surrogate pair, counted from the first of them. -/
  | half (offset : Fin 0x800)
deriving DecidableEq, Repr

namespace CodePoint

/-- The number of the first half of a surrogate pair. -/
def firstHalf : Nat := 0xd800

def number : CodePoint → Nat
  | .char c => c.toNat
  | .half offset => firstHalf + offset

def ofNumber? (n : Nat) : Option CodePoint :=
  if h : n.isValidChar then some (.char (Char.ofNatAux n h))
  else if h : n - firstHalf < 0x800 then some (.half ⟨n - firstHalf, h⟩)
  else none

def is (p : Char → Bool) : CodePoint → Bool
  | .char c => p c
  | .half _ => false

def char? : CodePoint → Option Char
  | .char c => some c
  | .half _ => none

def map (f : Char → Char) : CodePoint → CodePoint
  | .char c => .char (f c)
  | .half offset => .half offset

end CodePoint

instance : Coe Char CodePoint := ⟨.char⟩

/-- A text: a list of code points. -/
abbrev Text := List CodePoint

namespace Text

def ofChars (cs : List Char) : Text := cs.map .char

def ofString (s : String) : Text := ofChars s.toList

def chars? (t : Text) : Option (List Char) := t.mapM CodePoint.char?

def string? (t : Text) : Option String := (chars? t).map String.ofList

def isBroken (t : Text) : Bool := (chars? t).isNone

def join (separator : Text) (ts : List Text) : Text := separator.intercalate ts

theorem ofChars_cons (c : Char) (cs : List Char) : ofChars (c :: cs) = .char c :: ofChars cs := rfl

/-- A text of characters has them back. -/
theorem chars?_ofChars (cs : List Char) : chars? (ofChars cs) = some cs := by
  induction cs with
  | nil => rfl
  | cons c cs ih =>
    simp only [chars?, ofChars, List.map_cons, List.mapM_cons] at ih ⊢
    simp [ih, CodePoint.char?]

/-- A text that has characters is the text of them. -/
theorem eq_ofChars_of_chars? {t : Text} {cs : List Char} (h : chars? t = some cs) :
    t = ofChars cs := by
  induction t generalizing cs with
  | nil => simp_all [chars?, ofChars]
  | cons p t ih =>
    cases p with
    | char c =>
      simp only [chars?, List.mapM_cons, CodePoint.char?, Option.pure_def, Option.bind_eq_bind,
        Option.bind_some, Option.bind_eq_some_iff, Option.some.injEq] at h
      obtain ⟨rest, hrest, rfl⟩ := h
      simp [ofChars, ih hrest]
    | half offset => simp [chars?, CodePoint.char?] at h

/-- The text of a string has it back. -/
theorem string?_ofString (s : String) : string? (ofString s) = some s := by
  simp [string?, ofString, chars?_ofChars]

end Text

instance : Coe String Text := ⟨Text.ofString⟩

end DeployScript
