import DeployScript.Proofs.CommandLine.Course
import DeployScript.Proofs.Generate.Uniformity
import DeployScript.Proofs.Text.Styling

/-!
# What the options that show things change

`--json`, `--verbose`, `--quiet` and `--debug` say what is shown of a command, and should have no
part in what it does. They have none in the files and in the programs that are started: the work of
two invocations that differ in them goes abreast. They do have one in the exit status: a script can
be generated at a path that is a broken text, and such a path cannot be printed. Showing it then
crashes a command that has done its work, while `--json`, which escapes the path, and `--quiet`,
which shows nothing, exit with success.
-/

namespace DeployScript

namespace CommandLine

/-! ### The same work -/

/-- The invocations ask for the same work, whatever each of them shows of it. -/
structure Invocation.SameWork (i i' : Invocation) : Prop where
  request : i'.request = i.request
  config : i'.config = i.config
  steps : i'.steps = i.steps

variable {arguments arguments' : List String} {env : Environment} {i i' : Invocation}
  {w w' u u' : Machine} {report : Report}

theorem Invocation.SameWork.work_eq [Depths] (h : i.SameWork i') : work i' = work i := by
  rw [work, work, loadConfig, loadConfig, h.request, h.config, h.steps]

theorem uniform_work [Depths] (i : Invocation) : Uniform (work i).run := by
  rw [work]
  apply (Config.uniform_load _ true).action_bind
  intro c
  apply (Uniform.lift (Generate.uniform_run i.request c i.steps)).action_bind
  rintro (crash | report)
  · exact .pure _
  · exact .pure _

/-- However the log is set up, the machine is abreast of itself. -/
theorem abreast_ready (env : Environment) (i i' : Invocation) (w : Machine) :
    (ready env i w).Abreast (ready env i' w) :=
  ⟨⟨rfl, rfl, file_log_ready env i w, file_log_ready env i' w⟩, rfl, rfl⟩

/-! ### What is shown of it -/

/-- The exit status of what a command comes to: a crash counts as a failure. -/
def exitStatus : Except Crash Nat → Nat
  | .ok status => status
  | .error _ => exitError

/-- Is the path of a script that was generated shown? -/
def Invocation.showsPath (i : Invocation) : Bool := !i.json && !i.verbosity.quiet

/-- The report is of a script that was generated at a path that is a broken text. -/
def BrokenOutput (report : Report) : Prop :=
  report.ok = true ∧ ∃ path, report.output = some path ∧ path.text.isBroken = true

/-- What is shown of a report is broken where it is a broken path, and nowhere else. -/
theorem isBroken_reportOutput_iff :
    (reportOutput i report).isBroken = true ↔ i.showsPath = true ∧ BrokenOutput report := by
  rw [reportOutput, Invocation.showsPath, BrokenOutput]
  split
  · next hjson => simp [hjson, Text.isBroken_append, Text.isBroken_ofString]
  · next hjson =>
    split
    · next hquiet => simp [hquiet, Text.isBroken, Text.chars?]
    · next hquiet =>
      split
      · next path hok houtput =>
        simp [hjson, hquiet, hok, houtput, Text.isBroken_withoutStyle, Text.isBroken_append,
          Text.isBroken_ofString]
      · next hnone =>
        refine iff_of_false (by simp [Text.isBroken, Text.chars?]) ?_
        rintro ⟨-, hok, path, houtput, -⟩
        exact hnone path hok houtput

/-- The exit status of an invocation whose work comes to this. -/
def statusAfter (i : Invocation) : Except Abort Report → Nat
  | .ok report => if (reportOutput i report).isBroken then exitError else statusOf report
  | .error _ => exitError

theorem statusAfter_of_broken (h : BrokenOutput report) :
    statusAfter i (.ok report) = if i.showsPath then exitError else exitOk := by
  rw [statusAfter, statusOf, if_pos h.1]
  cases hshown : i.showsPath <;> simp [isBroken_reportOutput_iff, hshown, h]

theorem statusAfter_of_not_broken (h : ¬ BrokenOutput report) :
    statusAfter i (.ok report) = statusOf report := by
  rw [statusAfter, if_neg]
  rw [isBroken_reportOutput_iff]
  exact fun hbroken => h hbroken.2

/-! ### How two commands end -/

section Generating

variable (hasks : Asks arguments w (.generate i)) (henv : env.nonEmpty? logFileVariable = none)
include hasks henv

/-- Showing what came of the work touches no files and starts no programs. -/
theorem run_sameTree_sameStarts [Depths] :
    ((run arguments env : OnMachine (Except Crash Nat)).run w).2.tree =
        ((work i).on (ready env i w)).2.tree ∧
      ((run arguments env : OnMachine (Except Crash Nat)).run w).2.starts =
        ((work i).on (ready env i w)).2.starts := by
  rcases hwork : (work i).on (ready env i w) with ⟨(f | crash) | report, w₁⟩
  · rw [run_of_workFailure hasks henv hwork]
    exact ⟨rfl, rfl⟩
  · rw [run_of_workCrash hasks henv hwork]
    exact ⟨rfl, rfl⟩
  · rw [run_of_workReport hasks henv hwork]
    split <;> exact ⟨rfl, rfl⟩

theorem exitStatus_run [Depths] :
    exitStatus ((run arguments env : OnMachine (Except Crash Nat)).run w).1 =
      statusAfter i ((work i).on (ready env i w)).1 := by
  rcases hwork : (work i).on (ready env i w) with ⟨(f | crash) | report, w₁⟩
  · rw [run_of_workFailure hasks henv hwork]
    rfl
  · rw [run_of_workCrash hasks henv hwork]
    rfl
  · rw [run_of_workReport hasks henv hwork, statusAfter]
    cases htext : (reportOutput i report).string? with
    | none => rw [if_pos (Text.string?_eq_none_iff.1 htext), exitStatus]
    | some text =>
      have hwhole : ¬ (reportOutput i report).isBroken = true := by
        rw [← Text.string?_eq_none_iff, htext]
        simp
      rw [if_neg hwhole, exitStatus]

end Generating

/-- The work of an invocation comes to a script at a path that is a broken text. -/
def GeneratesBroken [Depths] (i : Invocation) (w : Machine) : Prop :=
  ∃ report, ((work i).on w).1 = .ok report ∧ BrokenOutput report

/-- Two command lines that differ in nothing but `--json`, `--verbose`, `--quiet` and `--debug` end
with the same files and have started the same programs. They exit with the same status too, except
if a script was generated at a path that is a broken text, and just one of them shows the path. -/
theorem run_showing_independent [Depths] (hasks : Asks arguments w (.generate i))
    (hasks' : Asks arguments' w (.generate i')) (hsame : i.SameWork i')
    (henv : env.nonEmpty? logFileVariable = none) {result result' : Except Crash Nat}
    (hrun : (run arguments env : OnMachine (Except Crash Nat)).run w = (result, u))
    (hrun' : (run arguments' env : OnMachine (Except Crash Nat)).run w = (result', u')) :
    u'.tree = u.tree ∧ u'.starts = u.starts ∧
      (exitStatus result' = exitStatus result ↔
        ¬ (GeneratesBroken i (ready env i w) ∧ i'.showsPath ≠ i.showsPath)) := by
  have habreast := abreast_ready env i i' w
  have hresult : ((work i).on (ready env i' w)).1 = ((work i).on (ready env i w)).1 :=
    (uniform_work i).result habreast
  have hleft := (uniform_work i).abreast habreast
  obtain ⟨htree, hstarts⟩ := run_sameTree_sameStarts hasks henv
  obtain ⟨htree', hstarts'⟩ := run_sameTree_sameStarts hasks' henv
  have hstatus := exitStatus_run hasks henv
  have hstatus' := exitStatus_run hasks' henv
  rw [hrun] at htree hstarts hstatus
  rw [hrun', hsame.work_eq] at htree' hstarts' hstatus'
  refine ⟨?_, ?_, ?_⟩
  · rw [htree, htree']
    exact hleft.tree
  · rw [hstarts, hstarts']
    exact hleft.starts
  · rw [hstatus, hstatus', hresult, GeneratesBroken]
    cases ((work i).on (ready env i w)).1 with
    | error e => exact iff_of_true rfl (by simp)
    | ok report =>
      by_cases hbroken : BrokenOutput report
      · rw [statusAfter_of_broken hbroken, statusAfter_of_broken hbroken]
        cases i.showsPath <;> cases i'.showsPath <;> simp [hbroken, exitOk, exitError]
      · rw [statusAfter_of_not_broken hbroken, statusAfter_of_not_broken hbroken]
        simp [hbroken]

/-- A contract in a directory without an artifact, built and told as it is by default. -/
def toldArguments : List String := ["src/V.sol"]

def toldInvocation : Invocation :=
  ⟨⟨"src/V.sol", none, none⟩, none, ⟨true, true⟩, false, ⟨false, false, false⟩⟩

/-- The same, told as JSON, with all that the log has to say. -/
def debugArguments : List String := ["--debug", "src/V.sol", "--json"]

def debugInvocation : Invocation :=
  { toldInvocation with json := true, verbosity := ⟨true, false, false⟩ }

theorem run_showing_independent_missing_artifact : ∃ _ : Depths,
    Asks toldArguments (.ofTree .empty []) (.generate toldInvocation) ∧
      Asks debugArguments (.ofTree .empty []) (.generate debugInvocation) ∧
        toldInvocation.SameWork debugInvocation ∧
          ∃ result u result' u',
            (run toldArguments .empty : OnMachine (Except Crash Nat)).run (.ofTree .empty []) =
                (result, u) ∧
              (run debugArguments .empty : OnMachine (Except Crash Nat)).run (.ofTree .empty []) =
                (result', u') ∧
              u'.tree = u.tree ∧ u'.starts = u.starts ∧ exitStatus result' = exitStatus result := by
  have hasks : Asks toldArguments (.ofTree .empty []) (.generate toldInvocation) := by
    decide +kernel
  have hasks' : Asks debugArguments (.ofTree .empty []) (.generate debugInvocation) := by
    decide +kernel
  have hsame : toldInvocation.SameWork debugInvocation := ⟨rfl, rfl, rfl⟩
  have hfails : ((@work .ofThousand toldInvocation).on
      (ready .empty toldInvocation (.ofTree .empty []))).1.toOption.map Report.ok = some false := by
    decide +kernel
  let _ : Depths := .ofThousand
  have hwhole : ¬ GeneratesBroken toldInvocation
      (ready .empty toldInvocation (.ofTree .empty [])) := by
    rintro ⟨report, hreport, hok, -⟩
    rw [hreport] at hfails
    simp [Except.toOption, hok] at hfails
  rcases hrun : (run toldArguments .empty : OnMachine (Except Crash Nat)).run
    (.ofTree .empty []) with ⟨result, u⟩
  rcases hrun' : (run debugArguments .empty : OnMachine (Except Crash Nat)).run
    (.ofTree .empty []) with ⟨result', u'⟩
  obtain ⟨htree, hstarts, hstatus⟩ :=
    run_showing_independent hasks hasks' hsame rfl hrun hrun'
  exact ⟨.ofThousand, hasks, hasks', hsame, result, u, result', u', hrun, hrun', htree, hstarts,
    hstatus.2 fun h => hwhole h.1⟩

/-- The configuration writes to a directory whose name is half of a surrogate pair. -/
def halfNamedTree : FileTree :=
  .ofEntries [("deployer-kit.yml", .file "output_dir: \"\\udcff\"\ntemplate: template\n".toUTF8),
    ("out", .directory [("V.sol", .directory [("V.json", .file "\x7b\"abi\":[]\x7d".toUTF8)])]),
    ("template", .file "x".toUTF8)]

/-- Generating there is a success with `--quiet` and a crash without. -/
theorem not_forall_run_showing_independent :
    ¬ ∀ [Depths] (arguments arguments' : List String) (env : Environment) (i i' : Invocation)
      (w : Machine),
      Asks arguments w (.generate i) → Asks arguments' w (.generate i') → i.SameWork i' →
        env.nonEmpty? logFileVariable = none →
          ((run arguments' env : OnMachine (Except Crash Nat)).run w).2.tree =
              ((run arguments env : OnMachine (Except Crash Nat)).run w).2.tree ∧
            ((run arguments' env : OnMachine (Except Crash Nat)).run w).2.starts =
                ((run arguments env : OnMachine (Except Crash Nat)).run w).2.starts ∧
              exitStatus ((run arguments' env : OnMachine (Except Crash Nat)).run w).1 =
                exitStatus ((run arguments env : OnMachine (Except Crash Nat)).run w).1 := by
  intro h
  let w : Machine := .ofTree halfNamedTree []
  let i : Invocation :=
    ⟨⟨"src/V.sol", none, none⟩, none, ⟨false, false⟩, false, ⟨false, false, true⟩⟩
  let i' : Invocation := { i with verbosity := ⟨false, false, false⟩ }
  have hasks : Asks ["src/V.sol", "--no-build", "--no-format", "--quiet"] w (.generate i) := by
    decide +kernel
  have hasks' : Asks ["src/V.sol", "--no-build", "--no-format"] w (.generate i') := by
    decide +kernel
  have hsame : i.SameWork i' := ⟨rfl, rfl, rfl⟩
  have hgenerated : ((@work .ofThousand i).on (ready .empty i w)).1.toOption.map
      (fun report => (report.ok, report.output.map fun path => path.text.isBroken)) =
        some (true, some true) := by
    decide +kernel
  let _ : Depths := .ofThousand
  have henv : Environment.empty.nonEmpty? logFileVariable = none := rfl
  have hresult : ((work i).on (ready .empty i' w)).1 = ((work i).on (ready .empty i w)).1 :=
    (uniform_work i).result (abreast_ready _ i i' w)
  obtain ⟨-, -, hstatus⟩ := h _ _ .empty i i' w hasks hasks' hsame henv
  rw [exitStatus_run hasks henv, exitStatus_run hasks' henv, hsame.work_eq, hresult] at hstatus
  rcases hwork : ((work i).on (ready .empty i w)).1 with e | report <;>
    rw [hwork] at hgenerated hstatus
  · cases hgenerated
  · have hbroken : BrokenOutput report := by
      simpa [BrokenOutput, Except.toOption, Option.map_eq_some_iff] using hgenerated
    rw [statusAfter_of_broken hbroken, statusAfter_of_broken hbroken] at hstatus
    exact absurd hstatus (by decide)

end CommandLine

end DeployScript
