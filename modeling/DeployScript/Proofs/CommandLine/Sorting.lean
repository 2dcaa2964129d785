import DeployScript.CommandLine.Arguments
import Mathlib.Data.List.Basic

/-!
# How a command line is sorted out

The options of the command line and the ways to write them are a table, and what one argument says
follows from the table and the first equals sign in it. A whole command line is sorted out from the
front, one argument at a time, together with the next one where that is a value.
-/

namespace DeployScript.CommandLine

variable {argument spelling value : String} {rest : List String} {t : OptionText} {e : UsageError}
  {s : Setting}

def startsWithHyphen (text : String) : Bool := "-".toList.isPrefixOf text.toList

def isLong (text : String) : Bool := "--".toList.isPrefixOf text.toList

/-- Is the option one that only asks for a text to be shown? -/
def Setting.asksForText : Setting → Bool
  | .version | .help => true
  | _ => false

/-! ### Spellings -/

theorem mem_spellings (h : Setting.ofSpelling? spelling = some s) : spelling ∈ s.spellings := by
  simpa using List.find?_some h

theorem equals_not_mem (h : Setting.ofSpelling? spelling = some s) : '=' ∉ spelling.toList := by
  have hall : ∀ spelling ∈ s.spellings, '=' ∉ spelling.toList := by
    cases s <;> decide
  exact hall spelling (mem_spellings h)

theorem splitEquals_of_not_mem (h : '=' ∉ argument.toList) :
    splitEquals argument = (argument, none) := by
  simp [splitEquals, h]

theorem splitEquals_append (h : '=' ∉ spelling.toList) (value : String) :
    splitEquals (spelling ++ "=" ++ value) = (spelling, some value) := by
  have hlist : (spelling ++ "=" ++ value).toList = spelling.toList ++ '=' :: value.toList := by
    simp
  have hpass : ∀ c ∈ spelling.toList, (c != '=') = true := by
    intro c hc
    rw [bne_iff_ne]
    rintro rfl
    exact h hc
  rw [splitEquals, hlist, if_pos (by simp), List.takeWhile_append_of_pos hpass,
    List.dropWhile_append_of_pos hpass]
  simp

/-- An argument is split at its first equals sign, if it has one. -/
theorem splitEquals_cases (argument : String) :
    splitEquals argument = (argument, none) ∨
      ∃ spelling value, argument = spelling ++ "=" ++ value ∧ '=' ∉ spelling.toList ∧
        splitEquals argument = (spelling, some value) := by
  by_cases hmem : '=' ∈ argument.toList
  · right
    obtain ⟨front, back, hsplit, hfront⟩ := List.eq_append_cons_of_mem hmem
    have hargument : argument = String.ofList front ++ "=" ++ String.ofList back := by
      rw [← String.toList_inj, hsplit]
      simp
    have hspelling : '=' ∉ (String.ofList front).toList := by simpa using hfront
    refine ⟨_, _, hargument, hspelling, ?_⟩
    rw [hargument, splitEquals_append hspelling]
  · exact .inl (splitEquals_of_not_mem hmem)

/-! ### One argument -/

/-- The text before the first equals sign is long if the argument is. -/
theorem isLong_splitEquals (argument : String) :
    isLong (splitEquals argument).1 = isLong argument := by
  rcases splitEquals_cases argument with hsplit | ⟨spelling, value, rfl, hspelling, hsplit⟩
  · rw [hsplit]
  · rw [hsplit, isLong, isLong]
    rcases htext : spelling.toList with _ | ⟨c, _ | ⟨d, more⟩⟩ <;>
      simp_all [List.isPrefixOf]

theorem optionText_of_long (h : isLong argument = true) :
    optionText argument =
      match Setting.ofSpelling? (splitEquals argument).1 with
      | some s => longText s (splitEquals argument).1 (splitEquals argument).2
      | none => .error (.unknownOption (splitEquals argument).1) := by
  have hspelling := isLong_splitEquals argument
  rw [h, isLong] at hspelling
  rw [isLong] at h
  have hoption : longOption? (splitEquals argument).1 =
      Setting.ofSpelling? (splitEquals argument).1 := if_pos hspelling
  unfold optionText
  dsimp only
  rw [hoption]
  cases Setting.ofSpelling? (splitEquals argument).1 with
  | none => exact if_pos h
  | some s => rfl

theorem optionText_of_not_long (h : isLong argument = false) :
    optionText argument = shortTexts (argument.toList.drop 1) := by
  have hspelling := isLong_splitEquals argument
  rw [h, isLong, ← Bool.not_eq_true] at hspelling
  rw [isLong, ← Bool.not_eq_true] at h
  have hoption : longOption? (splitEquals argument).1 = none := if_neg hspelling
  unfold optionText
  dsimp only
  rw [hoption]
  exact if_neg h

theorem isOption_of_not_hyphen (h : startsWithHyphen argument = false) :
    isOption argument = false := by
  rw [startsWithHyphen] at h
  unfold isOption
  split
  · next heq => simp [heq] at h
  · rfl

theorem optionText_flag (hspelling : spelling ∈ s.spellings) (hflag : s.takesValue = false) :
    optionText spelling = .ok ⟨[(s, none)], none⟩ := by
  have hall : ∀ spelling ∈ s.spellings, optionText spelling = .ok ⟨[(s, none)], none⟩ := by
    cases s <;> first | decide +kernel | simp [Setting.takesValue] at hflag
  exact hall spelling hspelling

theorem optionText_valued (hspelling : spelling ∈ s.spellings) (hvalued : s.takesValue = true) :
    optionText spelling = .ok ⟨[], some (s, spelling)⟩ := by
  have hall : ∀ spelling ∈ s.spellings, optionText spelling = .ok ⟨[], some (s, spelling)⟩ := by
    cases s <;> first | decide +kernel | simp [Setting.takesValue] at hvalued
  exact hall spelling hspelling

/-- A spelling is an option, and does not end the options. -/
theorem isOption_of_mem_spellings (h : spelling ∈ s.spellings) :
    isOption spelling = true ∧ spelling ≠ "--" := by
  have hall : ∀ spelling ∈ s.spellings, isOption spelling = true ∧ spelling ≠ "--" := by
    cases s <;> decide
  exact hall spelling h

/-! ### Argument by argument -/

/-- What one command line gives, and after it another one. -/
def Given.append (g g' : Given) : Given := ⟨g.options ++ g'.options, g.arguments ++ g'.arguments⟩

theorem parse_dashes (rest : List String) : Given.parse ("--" :: rest) = .ok ⟨[], rest⟩ := by
  cases rest <;> simp [Given.parse]

theorem parse_cons_of_not_option (h : isOption argument = false) (rest : List String) :
    Given.parse (argument :: rest) = (Given.parse rest).map (Given.append ⟨[], [argument]⟩) := by
  have hdashes : argument ≠ "--" := by
    rintro rfl
    exact absurd h (by decide)
  cases rest <;> simp only [Given.parse, if_neg hdashes, h, Bool.false_eq_true, if_false] <;> rfl

theorem parse_cons_of_error (hdashes : argument ≠ "--") (hoption : isOption argument = true)
    (h : optionText argument = .error e) (rest : List String) :
    Given.parse (argument :: rest) = .error e := by
  cases rest <;> simp [Given.parse, hdashes, hoption, h, Except.bind]

theorem parse_cons_of_closed (hdashes : argument ≠ "--") (hoption : isOption argument = true)
    (h : optionText argument = .ok t) (hopen : t.open? = none) (rest : List String) :
    Given.parse (argument :: rest) =
      (Given.parse rest).map (Given.append ⟨t.complete, []⟩) := by
  cases rest with
  | nil => simp [Given.parse, hdashes, hoption, h, hopen, Except.bind, Except.map, Given.append]
  | cons next rest =>
    simp only [Given.parse, if_neg hdashes, hoption, if_true, h, hopen, Except.bind]
    rfl

theorem parse_cons_of_open (hdashes : argument ≠ "--") (hoption : isOption argument = true)
    (h : optionText argument = .ok t) (hopen : t.open? = some (s, spelling)) (value : String)
    (rest : List String) :
    Given.parse (argument :: value :: rest) =
      (Given.parse rest).map (Given.append ⟨t.complete ++ [(s, some value)], []⟩) := by
  simp only [Given.parse, if_neg hdashes, hoption, if_true, h, hopen, Except.bind]
  rfl

theorem parse_singleton_of_open (hdashes : argument ≠ "--") (hoption : isOption argument = true)
    (h : optionText argument = .ok t) (hopen : t.open? = some (s, spelling)) :
    Given.parse [argument] = .error (.missingValue spelling) := by
  simp [Given.parse, hdashes, hoption, h, hopen, Except.bind]

/-! ### What was sorted out -/

variable {g : Given}

theorem mem_of_value? (h : g.value? s = some value) : (s, some value) ∈ g.options := by
  obtain ⟨⟨s', value'⟩, hfind, hvalue⟩ := Option.bind_eq_some_iff.1 h
  have hs : s' = s := by simpa using List.find?_some hfind
  have hmem := List.mem_reverse.1 (List.mem_of_find?_eq_some hfind)
  rwa [hs, show value' = some value from hvalue] at hmem

theorem request?_eq_none (h : ∀ o ∈ g.options, o.1.asksForText = false) : g.request? = none := by
  rw [Given.request?, List.find?_eq_none]
  intro s hs
  rw [Given.settings, List.mem_eraseDups, List.mem_map] at hs
  obtain ⟨o, ho, rfl⟩ := hs
  have hquiet := h o ho
  cases hsetting : o.1 <;> simp_all [Setting.asksForText]

end DeployScript.CommandLine
