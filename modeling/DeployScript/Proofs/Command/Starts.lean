import DeployScript.Command
import DeployScript.Proofs.Host.Action

/-!
# The programs that a command starts

A configured command should start the program that it names, and one that names no program should
start nothing and fail. The empty command is refused where a program is started, and not where the
command is put together. Building adds no arguments, so that its empty command is refused there.
Formatting adds the file, and a command that was empty has become one that names the file itself:
the script that was just written is started as a program.
-/

namespace DeployScript

namespace Command

variable (c : CommandConfig) (added : List Text) (directory : Option Path) (verb reason : String)
  (w : Machine)

/-! ### A configured command -/

def startsOf (c : CommandConfig) (added : List Text) (directory : Option Path) : List Start :=
  if c.enabled = true ∧ c.command ++ added ≠ [] then
    [⟨c.command ++ added, directory, c.timeout.map .seconds⟩]
  else []

theorem run_of_argv_eq_nil {s : Start} (hargv : s.argv = []) :
    (run s : OnMachine (Except Crash Receipt)).run w =
      (.ok (.failure [] "Empty command"), w) := by
  simp only [run, hargv]
  rfl

theorem starts_run_of_argv_ne_nil {s : Start} (hargv : s.argv ≠ []) :
    ((run s : OnMachine (Except Crash Receipt)).run w).2.starts = w.starts ++ [s] := by
  have hnotEmpty : ¬ s.argv.isEmpty = true := by simpa using hargv
  simp only [run, if_neg hnotEmpty]
  change (w.takeRecord _).starts ++ [s] = w.starts ++ [s]
  rw [Machine.starts_takeRecord]

theorem runConfigured_of_not_enabled (hoff : ¬ c.enabled = true) :
    (runConfigured c added directory verb reason : OnMachine (Except Crash Receipt)).run w =
      (.ok (.skip (c.command ++ added) reason), w) := by
  simp only [runConfigured, if_neg hoff]
  rfl

theorem runConfigured_of_enabled (hon : c.enabled = true) :
    (runConfigured c added directory verb reason : OnMachine (Except Crash Receipt)).run w =
      (run ⟨c.command ++ added, directory, c.timeout.map .seconds⟩ :
          OnMachine (Except Crash Receipt)).run
        (w.takeRecord (.info toolLogger (verb ++ ": " ++ line (c.command ++ added)))) := by
  simp only [runConfigured, if_pos hon]
  rfl

theorem starts_runConfigured :
    ((runConfigured c added directory verb reason : OnMachine _).run w).2.starts =
      w.starts ++ startsOf c added directory := by
  by_cases hon : c.enabled = true
  · rw [runConfigured_of_enabled c added directory verb reason w hon]
    by_cases hargv : c.command ++ added = []
    · rw [run_of_argv_eq_nil _ hargv, Machine.starts_takeRecord]
      simp [startsOf, hargv]
    · rw [starts_run_of_argv_ne_nil _ hargv, Machine.starts_takeRecord]
      simp only [startsOf, hon, true_and, if_pos hargv]
  · rw [runConfigured_of_not_enabled c added directory verb reason w hon]
    simp [startsOf, hon]

/-! ### Starting what is configured -/

/-- The action starts the configured program or none: each program that it starts is the one that
the command names first, and a command that is turned on and empty fails and starts nothing. -/
structure StartsConfigured (c : CommandConfig) (x : OnMachine (Except Crash Receipt)) : Prop where
  program : ∀ w, ∃ started, (x.run w).2.starts = w.starts ++ started ∧
    ∀ s ∈ started, ∃ program arguments,
      c.command = program :: arguments ∧ s.argv.head? = some program
  empty : c.enabled = true → c.command = [] → ∀ w,
    (∃ receipt, (x.run w).1 = .ok receipt ∧ receipt.isFailed = true) ∧
      (x.run w).2.starts = w.starts

/-- As long as it names a program, a command starts that one whatever is added. -/
theorem head?_argv_of_mem_startsOf {s : Start} (hs : s ∈ startsOf c added directory)
    (hnamed : c.command ≠ []) :
    ∃ program arguments, c.command = program :: arguments ∧ s.argv.head? = some program := by
  obtain ⟨program, arguments, hcommand⟩ := List.exists_cons_of_ne_nil hnamed
  have hargv : s.argv = c.command ++ added := by
    simp only [startsOf, List.mem_ite_nil_right, List.mem_singleton] at hs
    rw [hs.2]
  refine ⟨program, arguments, hcommand, ?_⟩
  rw [hargv, hcommand]
  rfl

/-- Arguments that are added to an empty command take the place of its program, and nothing else
goes wrong. -/
theorem startsConfigured_runConfigured_iff :
    StartsConfigured c (runConfigured c added directory verb reason) ↔
      added = [] ∨ ¬ (c.enabled = true ∧ c.command = []) := by
  constructor
  · intro h
    by_cases hadded : added = []
    · exact .inl hadded
    · right
      rintro ⟨hon, hcommand⟩
      -- Any machine shows the start that should not be; this one has no files.
      have hstarts := (h.empty hon hcommand (.ofTree .empty [])).2
      rw [starts_runConfigured] at hstarts
      simp [startsOf, hon, hcommand, hadded] at hstarts
  · intro h
    constructor
    · intro w
      refine ⟨startsOf c added directory, starts_runConfigured .., ?_⟩
      intro s hs
      apply head?_argv_of_mem_startsOf c added directory hs
      intro hcommand
      have hstarted : c.enabled = true ∧ c.command ++ added ≠ [] :=
        (List.mem_ite_nil_right.mp hs).1
      -- without arguments added there is nothing to start
      rcases h with hadded | hnamed
      · exact hstarted.2 (by rw [hcommand, hadded, List.append_nil])
      · exact hnamed ⟨hstarted.1, hcommand⟩
    · intro hon hcommand w
      have hadded : added = [] := h.resolve_right (fun hnamed => hnamed ⟨hon, hcommand⟩)
      have hargv : c.command ++ added = [] := by rw [hcommand, hadded, List.append_nil]
      rw [runConfigured_of_enabled c added directory verb reason w hon,
        run_of_argv_eq_nil _ hargv]
      exact ⟨⟨_, rfl, rfl⟩, Machine.starts_takeRecord ..⟩

/-! ### Building and formatting -/

/-- Building starts what is configured. Formatting does so unless its command is turned on and
empty: what it starts is always the command with the file behind it, which then is the file
alone. -/
theorem startsConfigured_build_and_format_iff (c : CommandConfig) (file : Path)
    (directory : Option Path) :
    StartsConfigured c (build c directory) ∧
    (StartsConfigured c (format c file directory) ↔ ¬ (c.enabled = true ∧ c.command = [])) ∧
    (∀ w : Machine, ((build c directory : OnMachine (Except Crash Receipt)).run w).2.starts =
      w.starts ++ if c.enabled = true ∧ c.command ≠ [] then
        [⟨c.command, directory, c.timeout.map .seconds⟩]
      else []) ∧
    ∀ w : Machine, ((format c file directory : OnMachine (Except Crash Receipt)).run w).2.starts =
      w.starts ++ if c.enabled = true then
        [⟨c.command ++ [file.text], directory, c.timeout.map .seconds⟩]
      else [] := by
  refine ⟨?_, ?_, ?_, ?_⟩
  · exact (startsConfigured_runConfigured_iff c [] directory _ _).mpr (.inl rfl)
  · refine (startsConfigured_runConfigured_iff c [file.text] directory _ _).trans ?_
    simp
  · intro w
    have hstarts := starts_runConfigured c [] directory "Building" "build disabled" w
    simpa only [build, startsOf, List.append_nil] using hstarts
  · intro w
    have hstarts := starts_runConfigured c [file.text] directory "Formatting" "format disabled" w
    have hargv : c.command ++ [file.text] ≠ [] := by simp
    simpa only [format, startsOf, hargv, ne_eq, not_false_eq_true, and_true] using hstarts

/-- A formatter that is turned on and names no program starts the script. -/
theorem not_forall_startsConfigured :
    ¬ ∀ (c : CommandConfig) (file : Path) (directory : Option Path),
      StartsConfigured c (build c directory) ∧ StartsConfigured c (format c file directory) := by
  intro h
  have hformat := (h ⟨true, [], none⟩ (.parse "script/deployers/VaultDeployer.s.sol") none).2
  rcases (startsConfigured_runConfigured_iff _ _ _ _ _).mp hformat with hadded | hnamed
  · cases hadded
  · exact hnamed ⟨rfl, rfl⟩

end Command

end DeployScript
