import DeployScript.Proofs.CommandLine.Parts
import DeployScript.Proofs.CommandLine.Presentation
import DeployScript.Proofs.Host.Watched

/-!
# Misuse of the command line

A command line is misused if an option in it does not exist or lacks its value, if it names a second
source file, or if a directory or a contract name looks like an option. Some of this turns up while
the command line is sorted out, and some when values are checked, and what looks like an option may
be a value. In all these cases the command only tells what is wrong: it exits with an error, starts
no program, looks for no file and changes none.
-/

namespace DeployScript.CommandLine

variable {arguments : List String} {g : Given} {s : Setting} {value : String}

/-! ### Misuse -/

def positionals (arguments : List String) : List String :=
  (parts arguments).filterMap Part.argument?

/-- The values that are given to an option, in order, however they are written. -/
def valuesGiven (s : Setting) (arguments : List String) : List String :=
  ((parts arguments).flatMap Part.occurrences).filterMap fun o => if o.1 = s then o.2 else none

def AsksForText (arguments : List String) : Prop :=
  ∃ p ∈ parts arguments, ∃ o ∈ p.occurrences, o.1.asksForText = true

instance (arguments : List String) : Decidable (AsksForText arguments) :=
  inferInstanceAs (Decidable (∃ p ∈ parts arguments, _))

/-- The ways to misuse the command line. Where a text is asked for, extra arguments and the values
of options do not matter. -/
inductive Misused (arguments : List String) : Prop where
  | unknownOption {text spelling : String} (mem : .options text ∈ parts arguments)
    (unknown : reading text = .unknown spelling)
  | missingValue {text spelling : String} {s : Setting}
    (last : (parts arguments).getLast? = some (.options text))
    (awaits : reading text = .awaits s spelling)
  | extraArgument (quiet : ¬ AsksForText arguments) (extra : 2 ≤ (positionals arguments).length)
  | hyphenValue {s : Setting} {value : String} (quiet : ¬ AsksForText arguments)
    (bare : s = .output ∨ s = .name) (last : (valuesGiven s arguments).getLast? = some value)
    (hyphen : startsWithHyphen value = true)

/-! ### What the parts give -/

/-- The value of an option is the last one that is given, where none is left out. -/
theorem value?_eq_getLast? {options : List Occurrence}
    (h : ∀ o ∈ options, o.1 = s → o.2 ≠ none) (arguments : List String) :
    (Given.mk options arguments).value? s =
      (options.filterMap fun o => if o.1 = s then o.2 else none).getLast? := by
  have hback : ∀ o ∈ options.reverse, o.1 = s → o.2 ≠ none := by
    intro o ho
    exact h o (List.mem_reverse.1 ho)
  rw [Given.value?, List.getLast?_eq_head?_reverse, ← List.filterMap_reverse, List.head?_filterMap]
  dsimp only
  generalize options.reverse = back at hback
  induction back with
  | nil => rfl
  | cons o rest ih =>
    obtain ⟨ho, hrest⟩ := List.forall_mem_cons.1 hback
    by_cases hs : o.1 = s
    · obtain ⟨value, hvalue⟩ := Option.ne_none_iff_exists'.1 (ho hs)
      simp [hs, hvalue]
    · simp [hs, ih hrest]

theorem takesValue_of_mem_flagsOf {argument : String} (h : s ∈ flagsOf argument) :
    s.takesValue = false := by
  rw [flagsOf] at h
  split at h
  · simpa using (List.mem_filter.1 h).2
  · obtain ⟨c, hc, hs⟩ := List.mem_filterMap.1 h
    have hflag : isFlagLetter c = true := List.all_eq_true.1 List.all_takeWhile c hc
    simpa [isFlagLetter, hs] using hflag

/-- An option that has a value is not given without one. -/
theorem value_ne_none {p : Part} {o : Occurrence} (h : o ∈ p.occurrences)
    (hvalued : o.1.takesValue = true) : o.2 ≠ none := by
  rintro hnone
  cases p with
  | options text =>
    rcases List.mem_append.1 h with hflag | hcarried
    · obtain ⟨s, hs, rfl⟩ := List.mem_map.1 hflag
      rw [takesValue_of_mem_flagsOf hs] at hvalued
      cases hvalued
    · cases hreading : reading text <;> simp [hreading] at hcarried
      simp [hcarried] at hnone
  | value s text => simp [List.mem_singleton.1 h] at hnone
  | argument text => cases h
  | dashes => cases h

theorem value?_givenByParts (hvalued : s.takesValue = true) (arguments : List String) :
    (givenByParts (parts arguments)).value? s = (valuesGiven s arguments).getLast? := by
  apply value?_eq_getLast?
  rintro o ho rfl
  obtain ⟨p, -, hp⟩ := List.mem_flatMap.1 ho
  exact value_ne_none hp hvalued

theorem request?_givenByParts (h : ¬ AsksForText arguments) :
    (givenByParts (parts arguments)).request? = none := by
  apply request?_eq_none
  intro o ho
  obtain ⟨p, hp, hmem⟩ := List.mem_flatMap.1 ho
  rw [← Bool.not_eq_true]
  exact fun htext => h ⟨p, hp, o, hmem, htext⟩

theorem eq_givenByParts_of_parse (h : Given.parse arguments = .ok g) :
    partsError? (parts arguments) = none ∧ g = givenByParts (parts arguments) := by
  rw [parse_eq_collect, collect] at h
  split at h
  · cases h
  · next hnone => exact ⟨hnone, (Except.ok.inj h).symm⟩

/-! ### A misused command line asks for nothing -/

theorem parse_ne_ok_of_unknown {text spelling : String} (hmem : .options text ∈ parts arguments)
    (hunknown : reading text = .unknown spelling) : Given.parse arguments ≠ .ok g := by
  intro h
  obtain ⟨hnone, -⟩ := eq_givenByParts_of_parse h
  rw [partsError?, Option.or_eq_none_iff, List.findSome?_eq_none_iff] at hnone
  have herror := hnone.1 _ hmem
  simp [Part.error?, hunknown] at herror

theorem parse_ne_ok_of_missing {text spelling : String}
    (hlast : (parts arguments).getLast? = some (.options text))
    (hawaits : reading text = .awaits s spelling) : Given.parse arguments ≠ .ok g := by
  intro h
  obtain ⟨hnone, -⟩ := eq_givenByParts_of_parse h
  rw [partsError?, Option.or_eq_none_iff, hlast] at hnone
  simp [Part.endError?, hawaits] at hnone

/-- A value that looks like an option is refused. -/
theorem checkSetting_of_hyphen (hbare : s = .output ∨ s = .name) (hvalue : g.value? s = some value)
    (hhyphen : startsWithHyphen value = true) :
    ∃ e, (checkSetting g s : Action OnMachine _) = pure (.error e) := by
  have hrefused : ∃ e, checkHyphen s value = .error e := by
    rw [startsWithHyphen] at hhyphen
    rw [checkHyphen, if_pos hhyphen]
    exact ⟨_, rfl⟩
  obtain ⟨e, he⟩ := hrefused
  refine ⟨e, ?_⟩
  rcases hbare with rfl | rfl <;> simp only [checkSetting, hvalue, he]

theorem checkAll_ne_ok (hbare : s = .output ∨ s = .name) (hvalue : g.value? s = some value)
    (hhyphen : startsWithHyphen value = true) {settings : List Setting} (hmem : s ∈ settings)
    (w : Machine) : ((checkAll g settings : Action OnMachine _).on w).1 ≠ .ok (.ok ()) := by
  induction settings generalizing w with
  | nil => cases hmem
  | cons first rest ih =>
    rw [checkAll]
    rcases hon : (checkSetting g first : Action OnMachine _).on w with ⟨e | e | ⟨⟩, w'⟩
    · rw [Action.on_bind_error hon]
      simp
    · rw [Action.on_bind_ok hon]
      simp
    · rw [Action.on_bind_ok hon]
      -- The first option passed, so that it is not the one with the bad value.
      rcases List.mem_cons.1 hmem with rfl | hrest
      · obtain ⟨e, he⟩ := checkSetting_of_hyphen hbare hvalue hhyphen
        rw [he] at hon
        cases hon
      · exact ih hrest w'

/-- A command line that asks for a script has no second argument, and its values pass. -/
theorem Asks.passes {w : Machine} {d : Demand} (hasks : Asks arguments w d)
    (hparse : Given.parse arguments = .ok g) (hrequest : g.request? = none) :
    g.arguments.length ≤ 1 ∧
      ((checkAll g g.settings : Action OnMachine _).on w).1 = .ok (.ok ()) := by
  rw [Asks, demand, hparse] at hasks
  simp only [hrequest] at hasks
  rcases hon : (checkAll g g.settings : Action OnMachine _).on w with ⟨e | e | ⟨⟩, w'⟩
  · rw [Action.on_bind_error hon] at hasks
    cases hasks
  · rw [Action.on_bind_ok hon] at hasks
    cases hasks
  · rw [Action.on_bind_ok hon] at hasks
    rcases harguments : g.arguments with _ | ⟨source, _ | ⟨extra, more⟩⟩ <;>
      rw [harguments] at hasks
    · exact ⟨by simp, rfl⟩
    · exact ⟨by simp, rfl⟩
    · cases hasks

theorem Misused.not_asks (h : Misused arguments) (w : Machine) (d : Demand) :
    ¬ Asks arguments w d := by
  intro hasks
  have hsorted : ∃ g, Given.parse arguments = .ok g := by
    rw [Asks, demand] at hasks
    split at hasks
    · cases hasks
    · next g hparse => exact ⟨g, hparse⟩
  obtain ⟨g, hparse⟩ := hsorted
  obtain ⟨-, rfl⟩ := eq_givenByParts_of_parse hparse
  cases h with
  | unknownOption mem unknown => exact parse_ne_ok_of_unknown mem unknown hparse
  | missingValue last awaits => exact parse_ne_ok_of_missing last awaits hparse
  | extraArgument quiet extra =>
    have hone := (hasks.passes hparse (request?_givenByParts quiet)).1
    exact absurd extra (Nat.not_le.2 (Nat.lt_succ_of_le hone))
  | @hyphenValue s value quiet bare last hyphen =>
    have hpass := (hasks.passes hparse (request?_givenByParts quiet)).2
    have hvalued : s.takesValue = true := by rcases bare with rfl | rfl <;> rfl
    have hvalue : (givenByParts (parts arguments)).value? s = some value := by
      rw [value?_givenByParts hvalued, last]
    have hmem : s ∈ (givenByParts (parts arguments)).settings := by
      rw [Given.settings, List.mem_eraseDups, List.mem_map]
      exact ⟨_, mem_of_value? hvalue, rfl⟩
    exact checkAll_ne_ok bare hvalue hyphen hmem w hpass

/-! ### A command line that asks for nothing does nothing -/

theorem unseen_checkConfig (value : String) : Unseen (checkConfig value) (checkConfig value) := by
  rw [checkConfig, checkConfig]
  split
  · exact .pure _
  · apply Unseen.bind
    · rw [Action.checkPath, Action.checkPath]
      split
      · exact .crash _
      · exact .pure _
    · intro _
      apply (Unseen.lift (Host.isDirectory _)).bind
      intro found
      split <;> exact .pure _

theorem unseen_checkSetting (g : Given) (s : Setting) :
    Unseen (checkSetting g s) (checkSetting g s) := by
  unfold checkSetting
  split
  · exact .pure _
  · exact .pure _
  · exact unseen_checkConfig _
  · exact .pure _

theorem unseen_checkAll (g : Given) (settings : List Setting) :
    Unseen (checkAll g settings) (checkAll g settings) := by
  induction settings with
  | nil => exact .pure _
  | cons s rest ih =>
    rw [checkAll, checkAll]
    apply (unseen_checkSetting g s).bind
    rintro (e | ⟨⟩)
    · exact .pure _
    · exact ih

theorem unseen_demand (arguments : List String) :
    Unseen (demand arguments) (demand arguments) := by
  rw [demand, demand]
  split
  · exact .pure _
  · next g _ =>
    split
    · exact .pure _
    · exact .pure _
    · apply (unseen_checkAll g _).bind
      rintro (e | ⟨⟩)
      · exact .pure _
      · dsimp only
        split <;> exact .pure _

/-- How a run goes on once its command line is sorted out. -/
def finish [Depths] {m : Type → Type} [Monad m] [Host m] (env : Environment)
    (sorted : Except Abort (Except UsageError Demand)) : m (Except Crash Nat) :=
  match sorted with
  | .error (.crash crash) => return .error crash
  | .error (.failure failure) => do
    Host.complain (failureLine failure.message)
    return .ok exitError
  | .ok (.error e) => do
    Host.complain e.text
    return .ok exitError
  | .ok (.ok d) => do
    match ← (perform env d : Action m Nat).run with
    | .error (.crash crash) => return .error crash
    | .error (.failure failure) =>
      Host.complain (failureLine failure.message)
      return .ok exitError
    | .ok status => return .ok status

theorem run_eq_finish [Depths] {m : Type → Type} [Monad m] [LawfulMonad m] [Host m]
    (arguments : List String) (env : Environment) :
    (run arguments env : m (Except Crash Nat)) = (demand arguments).run >>= finish env := by
  rw [run, command, ExceptT.run_bind, bind_assoc]
  congr 1
  funext sorted
  rcases sorted with (f | crash) | (e | d)
  · simp [finish]
  · simp [finish]
  · simp [finish, Except.map]
  · rfl

/-- The command ends with what sorting out its arguments comes to, and tells it. -/
theorem run_of_not_asks [Depths] {w : Machine} (h : ∀ d, ¬ Asks arguments w d) (env : Environment) :
    ∃ result errors,
      (run arguments env : OnMachine (Except Crash Nat)).run w = (result, { w with errors }) ∧
        ((run arguments env : OnWatched (Except Crash Nat)).run []).run w =
            ((result, []), { w with errors }) ∧
          exitStatus result = exitError := by
  rcases hon : (demand arguments : Action OnMachine _).on w with ⟨sorted, w'⟩
  have hsame : w' = w := by
    have hlooks := looks_demand arguments w
    rwa [hon] at hlooks
  subst hsame
  have hmachine : (run arguments env : OnMachine _).run w' =
      (finish env sorted : OnMachine _).run w' := by
    rw [Action.on] at hon
    rw [run_eq_finish, StateT.run_bind, hon]
    rfl
  have hwatched : ((run arguments env : OnWatched _).run []).run w' =
      ((finish env sorted : OnWatched _).run []).run w' := by
    rw [run_eq_finish, StateT.run_bind, StateT.run_bind, (unseen_demand arguments).run_of_on hon []]
    rfl
  rw [hmachine, hwatched]
  rcases sorted with (f | crash) | (e | d)
  · exact ⟨_, _, rfl, rfl, rfl⟩
  · exact ⟨_, _, rfl, rfl, rfl⟩
  · exact ⟨_, _, rfl, rfl, rfl⟩
  · exact absurd (congrArg Prod.fst hon) (h d)

/-- A misused command line exits with an error. It is told what is wrong on standard error, and
nothing else comes of it: the machine is otherwise as it was, and no file was looked for or read. -/
theorem run_of_misused [Depths] (h : Misused arguments) (env : Environment) (w : Machine) :
    ∃ result errors,
      (run arguments env : OnMachine (Except Crash Nat)).run w = (result, { w with errors }) ∧
        ((run arguments env : OnWatched (Except Crash Nat)).run []).run w =
            ((result, []), { w with errors }) ∧
          exitStatus result = exitError :=
  run_of_not_asks (h.not_asks w) env

/-- The value of `-o` is the next argument, although this is an option with a value itself. -/
def swallowedArguments : List String := ["-o", "--output=lib", "--json", "src/V.sol"]

theorem run_of_misused_swallowed : ∃ _ : Depths,
    Misused swallowedArguments ∧
      ∃ result errors,
        (run swallowedArguments .empty : OnMachine (Except Crash Nat)).run (.ofTree .empty []) =
            (result, { Machine.ofTree .empty [] with errors }) ∧
          ((run swallowedArguments .empty : OnWatched (Except Crash Nat)).run []).run
              (.ofTree .empty []) = ((result, []), { Machine.ofTree .empty [] with errors }) ∧
            exitStatus result = exitError := by
  have hlast : (valuesGiven .output swallowedArguments).getLast? = some "--output=lib" := by
    decide +kernel
  have hmisused : Misused swallowedArguments :=
    .hyphenValue (by decide +kernel) (.inl rfl) hlast (by decide)
  let _ : Depths := .ofThousand
  exact ⟨.ofThousand, hmisused, run_of_misused hmisused .empty (.ofTree .empty [])⟩

end DeployScript.CommandLine
