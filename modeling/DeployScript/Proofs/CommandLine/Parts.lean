import DeployScript.Proofs.CommandLine.Sorting

/-!
# The parts of a command line

What an argument is depends on its place: behind an option that awaits its value it is that value,
behind two hyphens it is an argument whatever it looks like, and elsewhere it is made of options if
it starts with a hyphen. Short options are written together as flags, up to the first letter that is
no flag; this one is unknown, or has a value that is the rest of the argument or the next one.

Sorting out a command line comes to what its parts hold, unless something is wrong with one of them.
-/

namespace DeployScript.CommandLine

/-! ### One argument -/

/-- How an argument that is made of options ends. -/
inductive Reading where
  /-- With an option without a value. -/
  | flags
  /-- With something that is no option. -/
  | unknown (spelling : String)
  /-- With a value for an option that has none. -/
  | excess (spelling : String)
  /-- With an option whose value is the next argument. -/
  | awaits (s : Setting) (spelling : String)
  /-- With an option and its value. -/
  | carries (s : Setting) (value : String)
deriving DecidableEq

/-- Is the letter a short option without a value? -/
def isFlagLetter (c : Char) : Bool :=
  (Setting.ofSpelling? (shortSpelling c)).any fun s => !s.takesValue

/-- How short options end: with the first letter that is no flag and what is behind it. -/
def readLetters (letters : List Char) : Reading :=
  match letters.dropWhile isFlagLetter with
  | [] => .flags
  | c :: value =>
    match Setting.ofSpelling? (shortSpelling c) with
    | none => .unknown (shortSpelling c)
    | some s => if value.isEmpty then .awaits s (shortSpelling c) else .carries s (.ofList value)

/-- How a long option ends. -/
def readLong (spelling : String) (value : Option String) : Reading :=
  match Setting.ofSpelling? spelling, value with
  | none, _ => .unknown spelling
  | some s, none => if s.takesValue then .awaits s spelling else .flags
  | some s, some value => if s.takesValue then .carries s value else .excess spelling

/-- How an argument ends that is made of options. -/
def reading (argument : String) : Reading :=
  if isLong argument then readLong (splitEquals argument).1 (splitEquals argument).2
  else readLetters (argument.toList.drop 1)

/-- The flags in an argument that is made of options. -/
def flagsOf (argument : String) : List Setting :=
  if isLong argument then (Setting.ofSpelling? argument).toList.filter fun s => !s.takesValue
  else ((argument.toList.drop 1).takeWhile isFlagLetter).filterMap fun c =>
    Setting.ofSpelling? (shortSpelling c)

/-- What an argument with these flags holds. -/
def Reading.text (flags : List Setting) : Reading → Except UsageError OptionText
  | .flags => .ok ⟨flags.map fun s => (s, none), none⟩
  | .unknown spelling => .error (.unknownOption spelling)
  | .excess spelling => .error (.unexpectedValue spelling)
  | .awaits s spelling => .ok ⟨flags.map fun s => (s, none), some (s, spelling)⟩
  | .carries s value => .ok ⟨(flags.map fun s => (s, none)) ++ [(s, some value)], none⟩

theorem text_cons (s : Setting) (flags : List Setting) (r : Reading) :
    r.text (s :: flags) =
      (r.text flags).map fun t => { t with complete := (s, none) :: t.complete } := by
  cases r <;> rfl

theorem shortTexts_eq (letters : List Char) :
    shortTexts letters = (readLetters letters).text
      ((letters.takeWhile isFlagLetter).filterMap fun c =>
        Setting.ofSpelling? (shortSpelling c)) := by
  induction letters with
  | nil => rfl
  | cons c rest ih =>
    rw [shortTexts]
    cases hsetting : Setting.ofSpelling? (shortSpelling c) with
    | none =>
      have hflag : isFlagLetter c = false := by simp [isFlagLetter, hsetting]
      simp [readLetters, hflag, hsetting, Reading.text]
    | some s =>
      cases hvalued : s.takesValue with
      | true =>
        have hflag : isFlagLetter c = false := by simp [isFlagLetter, hsetting, hvalued]
        cases rest <;> simp [readLetters, hflag, hsetting, hvalued, Reading.text]
      | false =>
        have hflag : isFlagLetter c = true := by simp [isFlagLetter, hsetting, hvalued]
        have hrest : readLetters (c :: rest) = readLetters rest := by
          rw [readLetters, List.dropWhile_cons_of_pos hflag, ← readLetters]
        simp [hrest, ih, hflag, hsetting, hvalued, text_cons]

/-- What an argument holds is told by its flags and its end. -/
theorem optionText_eq (argument : String) :
    optionText argument = (reading argument).text (flagsOf argument) := by
  cases hlong : isLong argument with
  | false =>
    rw [optionText_of_not_long hlong, shortTexts_eq]
    simp [reading, flagsOf, hlong]
  | true =>
    rw [optionText_of_long hlong]
    simp only [reading, flagsOf, hlong, if_true, readLong]
    rcases splitEquals_cases argument with hsplit | ⟨spelling, value, hargument, -, hsplit⟩ <;>
      rw [hsplit]
    · cases hsetting : Setting.ofSpelling? argument with
      | none => rfl
      | some s => cases hvalued : s.takesValue <;> simp [longText, hvalued, Reading.text]
    · have hwhole : Setting.ofSpelling? argument = none := by
        rw [Option.eq_none_iff_forall_ne_some]
        intro s hs
        apply equals_not_mem hs
        simp [hargument]
      dsimp only
      rw [hwhole]
      cases hsetting : Setting.ofSpelling? spelling with
      | none => rfl
      | some s => cases hvalued : s.takesValue <;> simp [longText, hvalued, Reading.text]

/-! ### All arguments -/

/-- What an argument is at its place. -/
inductive Part where
  | argument (text : String)
  | options (text : String)
  | value (s : Setting) (text : String)
  /-- The two hyphens that end the options. -/
  | dashes
deriving DecidableEq

/-- The parts of a command line: its arguments at their places. -/
def parts : List String → List Part
  | [] => []
  | argument :: rest =>
    if argument = "--" then .dashes :: rest.map .argument
    else if isOption argument then
      match reading argument, rest with
      | .awaits s _, value :: rest => .options argument :: .value s value :: parts rest
      | _, rest => .options argument :: parts rest
    else .argument argument :: parts rest

namespace Part

/-- The options that a part holds, and the values of options. -/
def occurrences : Part → List Occurrence
  | options text =>
    (flagsOf text).map (fun s => (s, none)) ++
      match reading text with
      | .carries s carried => [(s, some carried)]
      | _ => []
  | value s text => [(s, some text)]
  | _ => []

def argument? : Part → Option String
  | argument text => some text
  | _ => none

def error? : Part → Option UsageError
  | options text =>
    match reading text with
    | .unknown spelling => some (.unknownOption spelling)
    | .excess spelling => some (.unexpectedValue spelling)
    | _ => none
  | _ => none

def endError? : Part → Option UsageError
  | options text =>
    match reading text with
    | .awaits _ spelling => some (.missingValue spelling)
    | _ => none
  | _ => none

end Part

def partsError? (parts : List Part) : Option UsageError :=
  (parts.findSome? Part.error?).or (parts.getLast?.bind Part.endError?)

def givenByParts (parts : List Part) : Given :=
  ⟨parts.flatMap Part.occurrences, parts.filterMap Part.argument?⟩

/-- What the parts of a command line hold, unless something is wrong with them. -/
def collect (parts : List Part) : Except UsageError Given :=
  match partsError? parts with
  | some e => .error e
  | none => .ok (givenByParts parts)

variable {argument spelling : String} {e : UsageError} {s : Setting} {p : Part}

theorem optionText_of_error (h : (Part.options argument).error? = some e) :
    optionText argument = .error e := by
  rw [optionText_eq]
  cases hreading : reading argument <;> simp [Part.error?, hreading] at h <;> rw [← h] <;> rfl

theorem optionText_of_complete (herror : (Part.options argument).error? = none)
    (hend : (Part.options argument).endError? = none) :
    optionText argument = .ok ⟨(Part.options argument).occurrences, none⟩ := by
  rw [optionText_eq]
  cases hreading : reading argument <;>
    simp_all [Part.error?, Part.endError?, Part.occurrences, Reading.text]

theorem optionText_of_awaits (h : reading argument = .awaits s spelling) :
    optionText argument = .ok ⟨(Part.options argument).occurrences, some (s, spelling)⟩ := by
  rw [optionText_eq, h]
  simp [Part.occurrences, Reading.text, h]

theorem exists_awaits_of_endError? (h : (Part.options argument).endError? = some e) :
    ∃ s spelling, reading argument = .awaits s spelling ∧ e = .missingValue spelling := by
  cases hreading : reading argument <;> simp [Part.endError?, hreading] at h
  exact ⟨_, _, rfl, h.symm⟩

/-- A part at the front with which nothing is wrong adds what it holds. -/
theorem collect_cons {ps : List Part} (herror : p.error? = none)
    (hend : p.endError? = none ∨ ps ≠ []) :
    collect (p :: ps) = (collect ps).map (Given.append ⟨p.occurrences, p.argument?.toList⟩) := by
  have hsame : partsError? (p :: ps) = partsError? ps := by
    rw [partsError?, partsError?, List.findSome?_cons, herror]
    cases ps with
    | nil => simpa using hend
    | cons q qs => rw [List.getLast?_cons_cons]
  rw [collect, hsame, collect]
  cases partsError? ps with
  | some e => rfl
  | none =>
    cases hargument : p.argument? <;> simp [givenByParts, Given.append, Except.map, hargument]

theorem collect_cons_of_error (h : p.error? = some e) (ps : List Part) :
    collect (p :: ps) = .error e := by
  have herror : partsError? (p :: ps) = some e := by
    rw [partsError?, List.findSome?_cons, h]
    rfl
  rw [collect, herror]

theorem collect_arguments (arguments : List String) :
    collect (arguments.map .argument) = .ok ⟨[], arguments⟩ := by
  induction arguments with
  | nil => rfl
  | cons argument rest ih =>
    rw [List.map_cons, collect_cons rfl (.inl rfl), ih]
    rfl

/-- A command line is sorted out into what its parts hold. -/
theorem parse_eq_collect (arguments : List String) :
    Given.parse arguments = collect (parts arguments) := by
  fun_induction parts arguments with
  | case1 => rfl
  | case2 rest =>
    -- Two hyphens: what follows them is given as it is.
    rw [parse_dashes, collect_cons rfl (.inl rfl), collect_arguments]
    rfl
  | case3 argument hdashes hoption s spelling value rest hreading ih =>
    -- An option and the next argument, which is its value: two parts at once.
    have herror : (Part.options argument).error? = none := by simp [Part.error?, hreading]
    rw [parse_cons_of_open hdashes hoption (optionText_of_awaits hreading) rfl, ih,
      collect_cons herror (.inr (List.cons_ne_nil _ _)), collect_cons rfl (.inl rfl)]
    cases collect (parts rest) with
    | error e => rfl
    | ok g => simp [Except.map, Given.append, Part.occurrences, Part.argument?]
  | case4 argument hdashes hoption rest hlast ih =>
    -- Options that await no value, or await one at the end, where there is none.
    cases herror : (Part.options argument).error? with
    | some e =>
      rw [parse_cons_of_error hdashes hoption (optionText_of_error herror),
        collect_cons_of_error herror]
    | none =>
      cases hend : (Part.options argument).endError? with
      | none =>
        rw [parse_cons_of_closed hdashes hoption (optionText_of_complete herror hend) rfl, ih,
          collect_cons herror (.inl hend)]
        rfl
      | some e =>
        obtain ⟨s, spelling, hreading, rfl⟩ := exists_awaits_of_endError? hend
        cases rest with
        | nil =>
          rw [parse_singleton_of_open hdashes hoption (optionText_of_awaits hreading) rfl]
          simp [collect, partsError?, parts, herror, hend]
        | cons value rest => exact (hlast s spelling value rest hreading rfl).elim
  | case5 argument rest hdashes hoption ih =>
    have hplain : isOption argument = false := by simpa using hoption
    rw [parse_cons_of_not_option hplain, ih, collect_cons rfl (.inl rfl)]
    rfl

end DeployScript.CommandLine
