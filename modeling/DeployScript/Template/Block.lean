import DeployScript.Text.Literal
import DeployScript.Text.Space
import DeployScript.Text.Word

/-!
# Conditional blocks

A template marks parts of itself by line comments: `// __IF_FEATURE_key__` opens a part that is kept
if the feature is on, `// __IF_NOT_FEATURE_key__` one that is kept if it is off, and `// __ENDIF__`
closes the last one opened. A block is what stands from an opener to the first closer after it, if
no other opener stands between them: one pass settles every such innermost block, and passes are
repeated until there is none. A marker that is then left has no partner.

`length_pass` bounds the passes: each block that is settled takes away at least thirty characters.
-/

namespace DeployScript.Template

open DeployScript.Text (dropWord? length_of_dropWord? length_dropWhile_le isBlank isWord)

/-! ### Markers -/

def skipBlanks (cs : List Char) : List Char := cs.dropWhile isBlank

/-- The slashes that every marker starts with. -/
def slashes : List Char := ['/', '/']

def closingWord : List Char := "__ENDIF__".toList

/-- What an opener and its line say: the feature, and whether it has to be off. -/
structure Condition where
  negated : Bool
  key : List Char
deriving DecidableEq, Repr

/-- Is the condition met where `on` says which features are on? -/
def Condition.holds (c : Condition) (on : String → Bool) : Bool :=
  on (String.ofList c.key) != c.negated

/-- The start of an opener up to its key: whether it is negated, and what follows. -/
def openerHead? (cs : List Char) : Option (Bool × List Char) :=
  (dropWord? slashes cs).bind fun afterSlashes =>
    (dropWord? "__IF_".toList (skipBlanks afterSlashes)).bind fun afterIf =>
      match dropWord? "NOT_FEATURE_".toList afterIf with
      | some rest => some (true, rest)
      | none => (dropWord? "FEATURE_".toList afterIf).map (false, ·)

/-- The key that a run of word characters ends with two underscores after: all of the run but those,
if that leaves something. -/
def keyOfRun? (run : List Char) : Option (List Char) :=
  match run.reverse with
  | '_' :: '_' :: key => if key.isEmpty then none else some key.reverse
  | _ => none

/-- An opener with its line: the blanks before it, the marker, and nothing but blanks up to the line
end. -/
def opener? (cs : List Char) : Option (Condition × List Char) :=
  (openerHead? (skipBlanks cs)).bind fun (negated, afterHead) =>
    (keyOfRun? (afterHead.takeWhile isWord)).bind fun key =>
      match skipBlanks (afterHead.dropWhile isWord) with
      | '\n' :: rest => some (⟨negated, key⟩, rest)
      | _ => none

/-- A closer with its line: the blanks before it, the marker, and nothing but blanks up to the line
end or the end of the text. -/
def closer? (cs : List Char) : Option (List Char) :=
  (dropWord? slashes (skipBlanks cs)).bind fun afterSlashes =>
    (dropWord? closingWord (skipBlanks afterSlashes)).bind fun afterWord =>
      match skipBlanks afterWord with
      | [] => some []
      | '\n' :: rest => some rest
      | _ => none

/-! ### Blocks -/

/-- A block: its condition and the text between its markers. -/
structure Block where
  condition : Condition
  body : List Char
deriving DecidableEq, Repr

def Block.kept (b : Block) (on : String → Bool) : List Char :=
  if b.condition.holds on then b.body else []

/-- The text up to the first closer, if no opener starts in it, and what follows the closer. -/
def body? (cs : List Char) : Option (List Char × List Char) :=
  match closer? cs with
  | some rest => some ([], rest)
  | none =>
    if (openerHead? cs).isSome then none
    else match cs with
      | [] => none
      | c :: after => (body? after).map fun (body, rest) => (c :: body, rest)

def block? (cs : List Char) : Option (Block × List Char) :=
  (opener? cs).bind fun (condition, afterOpener) =>
    (body? afterOpener).map fun (body, rest) => (⟨condition, body⟩, rest)

/-! ### Lengths -/

theorem length_skipBlanks_le (cs : List Char) : (skipBlanks cs).length ≤ cs.length :=
  length_dropWhile_le _ _

theorem length_of_openerHead? {cs rest : List Char} {negated : Bool}
    (h : openerHead? cs = some (negated, rest)) : rest.length + 15 ≤ cs.length := by
  simp only [openerHead?, Option.bind_eq_some_iff] at h
  obtain ⟨afterSlashes, h₁, afterIf, h₂, h₃⟩ := h
  have l₁ := length_of_dropWord? h₁
  have l₂ := length_of_dropWord? h₂
  have l := length_skipBlanks_le afterSlashes
  have e₁ : slashes.length = 2 := rfl
  have e₂ : "__IF_".toList.length = 5 := rfl
  have e₃ : "NOT_FEATURE_".toList.length = 12 := rfl
  have e₄ : "FEATURE_".toList.length = 8 := rfl
  split at h₃
  · next r h₄ =>
    have l₄ := length_of_dropWord? h₄
    simp only [Option.some.injEq, Prod.mk.injEq] at h₃
    obtain ⟨-, rfl⟩ := h₃
    omega
  · simp only [Option.map_eq_some_iff, Prod.mk.injEq] at h₃
    obtain ⟨r, h₄, -, rfl⟩ := h₃
    have l₄ := length_of_dropWord? h₄
    omega

theorem length_of_keyOfRun? {run key : List Char} (h : keyOfRun? run = some key) :
    3 ≤ run.length := by
  unfold keyOfRun? at h
  split at h
  · next k heq =>
    split at h
    · simp at h
    · next hk =>
      have l : run.length = k.length + 2 := by
        rw [← List.length_reverse, heq]; rfl
      cases k with
      | nil => simp at hk
      | cons => simp at l; omega
  · simp at h

theorem length_of_opener? {cs rest : List Char} {condition : Condition}
    (h : opener? cs = some (condition, rest)) : rest.length + 19 ≤ cs.length := by
  simp only [opener?, Option.bind_eq_some_iff] at h
  obtain ⟨⟨negated, afterHead⟩, h₁, key, h₂, h₃⟩ := h
  dsimp only at h₁ h₂ h₃
  have l₁ := length_of_openerHead? h₁
  have l₂ := length_of_keyOfRun? h₂
  have l₃ := length_skipBlanks_le cs
  have l₄ := length_skipBlanks_le (afterHead.dropWhile isWord)
  have l₅ : (afterHead.takeWhile isWord).length + (afterHead.dropWhile isWord).length =
      afterHead.length := by
    rw [← List.length_append, List.takeWhile_append_dropWhile]
  split at h₃
  · next r heq =>
    simp only [Option.some.injEq, Prod.mk.injEq] at h₃
    obtain ⟨-, rfl⟩ := h₃
    rw [heq] at l₄
    simp only [List.length_cons] at l₄
    omega
  · simp at h₃

theorem length_of_closer? {cs rest : List Char} (h : closer? cs = some rest) :
    rest.length + 11 ≤ cs.length := by
  simp only [closer?, Option.bind_eq_some_iff] at h
  obtain ⟨afterSlashes, h₁, afterWord, h₂, h₃⟩ := h
  have l₁ := length_of_dropWord? h₁
  have l₂ := length_of_dropWord? h₂
  have l₃ := length_skipBlanks_le cs
  have l₄ := length_skipBlanks_le afterSlashes
  have l₅ := length_skipBlanks_le afterWord
  have e₁ : slashes.length = 2 := rfl
  have e₂ : closingWord.length = 9 := rfl
  split at h₃
  · simp only [Option.some.injEq] at h₃
    subst h₃
    simp only [List.length_nil]
    omega
  · next r heq =>
    simp only [Option.some.injEq] at h₃
    subst h₃
    rw [heq] at l₅
    simp only [List.length_cons] at l₅
    omega
  · simp at h₃

theorem length_of_body? {cs body rest : List Char} (h : body? cs = some (body, rest)) :
    body.length + rest.length + 11 ≤ cs.length := by
  fun_induction body? cs generalizing body rest with
  | case1 cs r hc =>
    simp only [Option.some.injEq, Prod.mk.injEq] at h
    obtain ⟨rfl, rfl⟩ := h
    have := length_of_closer? hc
    simp only [List.length_nil]
    omega
  | case2 => simp at h
  | case3 => simp at h
  | case4 c after _ _ ih =>
    simp only [Option.map_eq_some_iff, Prod.mk.injEq] at h
    obtain ⟨⟨b, r⟩, hb, rfl, rfl⟩ := h
    have := ih hb
    simp only [List.length_cons]
    omega

/-- A block and what follows it leave thirty characters for its markers. -/
theorem length_of_block? {cs rest : List Char} {b : Block} (h : block? cs = some (b, rest)) :
    b.body.length + rest.length + 30 ≤ cs.length := by
  simp only [block?, Option.bind_eq_some_iff, Option.map_eq_some_iff] at h
  obtain ⟨⟨condition, afterOpener⟩, h₁, ⟨body, r⟩, h₂, h₃⟩ := h
  simp only [Prod.mk.injEq] at h₃
  obtain ⟨rfl, rfl⟩ := h₃
  have := length_of_opener? h₁
  have := length_of_body? h₂
  dsimp only at *
  omega

theorem Block.length_kept_le (b : Block) (on : String → Bool) :
    (b.kept on).length ≤ b.body.length := by
  unfold Block.kept
  split <;> simp

/-! ### Passes -/

/-- What a pass makes of a text, and how many blocks it settled. -/
structure Pass where
  text : List Char
  settled : Nat
deriving DecidableEq, Repr

/-- Settles every innermost block, from the front to the end. -/
def pass (on : String → Bool) (cs : List Char) : Pass :=
  match _h : block? cs with
  | some (b, rest) =>
    let after := pass on rest
    ⟨b.kept on ++ after.text, after.settled + 1⟩
  | none =>
    match cs with
    | [] => ⟨[], 0⟩
    | c :: rest =>
      let after := pass on rest
      ⟨c :: after.text, after.settled⟩
termination_by cs.length
decreasing_by
  · have := length_of_block? _h
    omega
  · simp

/-- Every block that is settled takes away thirty characters or more. -/
theorem length_pass (on : String → Bool) (cs : List Char) :
    (pass on cs).text.length + 30 * (pass on cs).settled ≤ cs.length := by
  fun_induction pass on cs with
  | case1 cs b rest h after ih =>
    have := length_of_block? h
    have := b.length_kept_le on
    simp only [List.length_append, after]
    omega
  | case2 => simp
  | case3 c rest _ after ih =>
    simp only [List.length_cons, after]
    omega

/-- Passes repeated until one settles nothing. -/
def settleBlocks (on : String → Bool) (cs : List Char) : List Char :=
  if _h : (pass on cs).settled = 0 then (pass on cs).text
  else settleBlocks on (pass on cs).text
termination_by cs.length
decreasing_by
  have := length_pass on cs
  omega

/-! ### Markers without a partner -/

/-- What follows the shortest key and its two underscores. -/
def shortKeyRest? : List Char → Option (List Char)
  | [] => none
  | c :: rest =>
    if isWord c then
      match dropWord? ['_', '_'] rest with
      | some after => some after
      | none => shortKeyRest? rest
    else none

/-- What follows the marker that starts here, wherever in a line it stands. -/
def markerRest? (cs : List Char) : Option (List Char) :=
  match (openerHead? cs).bind fun (_, rest) => shortKeyRest? rest with
  | some rest => some rest
  | none => (dropWord? slashes cs).bind fun rest => dropWord? closingWord (skipBlanks rest)

def firstMarker? : List Char → Option (List Char)
  | [] => none
  | c :: rest =>
    match markerRest? (c :: rest) with
    | some after => some ((c :: rest).take ((c :: rest).length - after.length))
    | none => firstMarker? rest

end DeployScript.Template
