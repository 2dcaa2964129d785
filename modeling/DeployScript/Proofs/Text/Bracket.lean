import DeployScript.Text.Basic
import Mathlib.Data.List.Basic

/-!
# Nested brackets

Round, square and curly brackets are properly nested in a text if every bracket that is opened is
closed by one of its kind, after all those that are opened inside. A reader with the brackets that
wait to be closed on a stack finds out: it comes back to the stack that it started with behind every
properly nested text, and a text that takes it from the empty stack to the empty stack is one.
-/

namespace DeployScript.Text

inductive Bracket where
  | round
  | square
  | curly
deriving DecidableEq

namespace Bracket

def opening : Bracket → Char
  | .round => '('
  | .square => '['
  | .curly => '\x7b'

def closing : Bracket → Char
  | .round => ')'
  | .square => ']'
  | .curly => '\x7d'

def all : List Bracket := [.round, .square, .curly]

end Bracket

def opened? (c : CodePoint) : Option Bracket :=
  Bracket.all.find? fun b => decide (c = .char b.opening)

def closed? (c : CodePoint) : Option Bracket :=
  Bracket.all.find? fun b => decide (c = .char b.closing)

def isBracket (c : CodePoint) : Bool := (opened? c).isSome || (closed? c).isSome

def Unbracketed (t : Text) : Prop := ∀ c ∈ t, isBracket c = false

instance (t : Text) : Decidable (Unbracketed t) :=
  inferInstanceAs (Decidable (∀ c ∈ t, isBracket c = false))

inductive WellBracketed : Text → Prop
  | nil : WellBracketed []
  | cons {c t} : isBracket c = false → WellBracketed t → WellBracketed (c :: t)
  | enclose (b : Bracket) {inside rest} : WellBracketed inside → WellBracketed rest →
      WellBracketed (.char b.opening :: (inside ++ .char b.closing :: rest))

theorem eq_opening_of_opened? {c : CodePoint} {b : Bracket} (h : opened? c = some b) :
    c = .char b.opening := by
  have hfound := List.find?_some h
  exact of_decide_eq_true hfound

theorem eq_closing_of_closed? {c : CodePoint} {b : Bracket} (h : closed? c = some b) :
    c = .char b.closing := by
  have hfound := List.find?_some h
  exact of_decide_eq_true hfound

theorem bracket_cases (c : CodePoint) :
    (∃ b : Bracket, c = .char b.opening) ∨ (∃ b : Bracket, c = .char b.closing) ∨
      isBracket c = false := by
  cases hopened : opened? c with
  | some b => exact Or.inl ⟨b, eq_opening_of_opened? hopened⟩
  | none =>
    cases hclosed : closed? c with
    | some b => exact Or.inr (Or.inl ⟨b, eq_closing_of_closed? hclosed⟩)
    | none => exact Or.inr (Or.inr (by rw [isBracket, hopened, hclosed]; rfl))

/-! ### Putting texts together -/

theorem WellBracketed.append {s t : Text} (hs : WellBracketed s) (ht : WellBracketed t) :
    WellBracketed (s ++ t) := by
  induction hs with
  | nil => exact ht
  | cons hc _ ih => exact .cons hc ih
  | enclose b hinside _ _ ih =>
    rw [List.cons_append, List.append_assoc, List.cons_append]
    exact .enclose b hinside ih

theorem Unbracketed.wellBracketed {t : Text} (h : Unbracketed t) : WellBracketed t := by
  induction t with
  | nil => exact .nil
  | cons c t ih =>
    exact .cons (h c List.mem_cons_self) (ih fun d hd => h d (List.mem_cons_of_mem c hd))

theorem WellBracketed.join {separator : Text} {texts : List Text}
    (hseparator : WellBracketed separator) (h : ∀ t ∈ texts, WellBracketed t) :
    WellBracketed (join separator texts) := by
  induction texts with
  | nil => exact .nil
  | cons first rest ih =>
    have hfirst := h first List.mem_cons_self
    have hrest := ih fun t ht => h t (List.mem_cons_of_mem first ht)
    cases rest with
    | nil => simpa [Text.join] using hfirst
    | cons second more =>
      rw [Text.join, List.intercalate_cons_cons]
      exact (hfirst.append hseparator).append hrest

/-! ### Reading brackets -/

/-- The brackets that wait behind a code point, if they were `waiting` before it; none if it closes
another one than the last. -/
def stepBrackets? (waiting : List Bracket) (c : CodePoint) : Option (List Bracket) :=
  match opened? c with
  | some b => some (b :: waiting)
  | none =>
    match closed? c with
    | some b => if waiting.head? = some b then some waiting.tail else none
    | none => some waiting

def readBrackets? (waiting : List Bracket) (t : Text) : Option (List Bracket) :=
  t.foldlM stepBrackets? waiting

theorem stepBrackets?_opening (waiting : List Bracket) (b : Bracket) :
    stepBrackets? waiting (.char b.opening) = some (b :: waiting) := by
  cases b <;> rfl

theorem stepBrackets?_closing (waiting : List Bracket) (b : Bracket) :
    stepBrackets? (b :: waiting) (.char b.closing) = some waiting := by
  cases b <;> rfl

theorem eq_cons_of_stepBrackets?_closing {waiting after : List Bracket} {b : Bracket}
    (h : stepBrackets? waiting (.char b.closing) = some after) : waiting = b :: after := by
  have hclosing : stepBrackets? waiting (.char b.closing) =
      if waiting.head? = some b then some waiting.tail else none := by
    cases b <;> rfl
  rw [hclosing] at h
  split at h
  · next hhead =>
    obtain rfl := Option.some.inj h
    exact List.eq_cons_of_mem_head? hhead
  · simp at h

theorem stepBrackets?_of_not_bracket (waiting : List Bracket) {c : CodePoint}
    (h : isBracket c = false) : stepBrackets? waiting c = some waiting := by
  simp only [isBracket, Bool.or_eq_false_iff, Option.isSome_eq_false_iff, Option.isNone_iff_eq_none]
    at h
  rw [stepBrackets?, h.1, h.2]

theorem readBrackets?_cons (waiting : List Bracket) (c : CodePoint) (t : Text) :
    readBrackets? waiting (c :: t) =
      (stepBrackets? waiting c).bind fun after => readBrackets? after t := rfl

theorem readBrackets?_append (waiting : List Bracket) (s t : Text) :
    readBrackets? waiting (s ++ t) =
      (readBrackets? waiting s).bind fun after => readBrackets? after t :=
  List.foldlM_append

/-- A properly nested text leaves the stack as it was. -/
theorem readBrackets?_of_wellBracketed {t : Text} (h : WellBracketed t) (waiting : List Bracket) :
    readBrackets? waiting t = some waiting := by
  induction h generalizing waiting with
  | nil => rfl
  | cons hc _ ih =>
    rw [readBrackets?_cons, stepBrackets?_of_not_bracket waiting hc]
    exact ih waiting
  | enclose b _ _ ihinside ihrest =>
    rw [readBrackets?_cons, stepBrackets?_opening, Option.bind_some, readBrackets?_append,
      ihinside, Option.bind_some, readBrackets?_cons, stepBrackets?_closing]
    exact ihrest waiting

/-- The text closes the brackets that wait, one after the other, and is properly nested between. -/
def Closes : List Bracket → Text → Prop
  | [], t => WellBracketed t
  | b :: waiting, t => ∃ inside rest, WellBracketed inside ∧ Closes waiting rest ∧
      t = inside ++ .char b.closing :: rest

theorem Closes.append {waiting : List Bracket} {s t : Text} (hs : WellBracketed s)
    (ht : Closes waiting t) : Closes waiting (s ++ t) := by
  cases waiting with
  | nil => exact WellBracketed.append hs ht
  | cons b waiting =>
    obtain ⟨inside, rest, hinside, hrest, rfl⟩ := ht
    exact ⟨s ++ inside, rest, hs.append hinside, hrest, (List.append_assoc _ _ _).symm⟩

theorem closes_of_readBrackets? {waiting : List Bracket} {t : Text}
    (h : readBrackets? waiting t = some []) : Closes waiting t := by
  induction t generalizing waiting with
  | nil =>
    obtain rfl := Option.some.inj h
    exact .nil
  | cons c t ih =>
    rw [readBrackets?_cons] at h
    rcases bracket_cases c with ⟨b, rfl⟩ | ⟨b, rfl⟩ | hc
    · rw [stepBrackets?_opening, Option.bind_some] at h
      obtain ⟨inside, rest, hinside, hrest, rfl⟩ := ih h
      have hpair : WellBracketed (.char b.opening :: (inside ++ [.char b.closing])) :=
        .enclose b hinside .nil
      simpa using Closes.append hpair hrest
    · rw [Option.bind_eq_some_iff] at h
      obtain ⟨after, hstep, hafter⟩ := h
      obtain rfl := eq_cons_of_stepBrackets?_closing hstep
      exact ⟨[], t, .nil, ih hafter, rfl⟩
    · rw [stepBrackets?_of_not_bracket waiting hc, Option.bind_some] at h
      exact Closes.append (.cons hc .nil) (ih h)

theorem wellBracketed_iff_readBrackets? (t : Text) :
    WellBracketed t ↔ readBrackets? [] t = some [] :=
  ⟨fun h => readBrackets?_of_wellBracketed h [], closes_of_readBrackets?⟩

theorem WellBracketed.between {front inside back : Text} {waiting : List Bracket}
    (hfront : readBrackets? [] front = some waiting) (hinside : WellBracketed inside)
    (hback : readBrackets? waiting back = some []) : WellBracketed (front ++ inside ++ back) := by
  rw [wellBracketed_iff_readBrackets?, readBrackets?_append, readBrackets?_append, hfront,
    Option.bind_some, readBrackets?_of_wellBracketed hinside]
  exact hback

instance (t : Text) : Decidable (WellBracketed t) :=
  decidable_of_iff _ (wellBracketed_iff_readBrackets? t).symm

end DeployScript.Text
