import DeployScript.Proofs.Command.Starts
import DeployScript.Proofs.Generate.Independence
import DeployScript.Proofs.Host.Abreast

/-!
# The programs that a run starts

A run starts the build before anything else and the formatter after everything else, and no other
program. Between the two it only reads and writes files: so where it ends early the build is all
that it has started, and where it comes to the formatter the script has been written.
-/

namespace DeployScript

namespace Generate

variable {r : Request} {c : Config} {steps : Steps} {build : Bool} {w w' : Machine}
  {report : Report}

/-! ### What is started -/

def buildStarts (c : Config) (wanted : Bool) : List Start :=
  if wanted = true ∧ c.build.enabled = true ∧ c.build.command ≠ [] then
    [⟨c.build.command, none, c.build.timeout.map .seconds⟩]
  else []

/-- The programs that are started to format the script, where `written` says whether there is
one. -/
def formatStarts (r : Request) (c : Config) (wanted written : Bool) : List Start :=
  if written = true ∧ wanted = true ∧ c.format.enabled = true then
    [⟨c.format.command ++ [(target r c).text], none, c.format.timeout.map .seconds⟩]
  else []

theorem starts_buildStage (c : Config) (wanted : Bool) (w : Machine) :
    ((buildStage c wanted).on w).2.starts = w.starts ++ buildStarts c wanted := by
  cases wanted with
  | false =>
    rw [on_buildStage_false]
    simp [buildStarts]
  | true =>
    have hstarts := Command.starts_runConfigured c.build [] none "Building" "build disabled" w
    rw [on_buildStage_true, Command.build, hstarts, Command.startsOf, buildStarts]
    simp only [List.append_nil, true_and]

theorem starts_formatStage (report : Report) (wanted : Bool) (w : Machine)
    (houtput : report.output = some (target r c)) :
    ((formatStage c wanted report : OnMachine (Except Crash Report)).run w).2.starts =
      w.starts ++ formatStarts r c wanted true := by
  cases wanted with
  | false =>
    rw [run_formatStage_false]
    simp [formatStarts]
  | true =>
    have hstarts := Command.starts_runConfigured c.format [(target r c).text] none "Formatting"
      "format disabled" w
    have hargv : c.format.command ++ [(target r c).text] ≠ [] := by simp
    simp only [Command.startsOf, ne_eq, hargv, not_false_eq_true, and_true] at hstarts
    have hkept := lasting_formatStage_true Machine.lasting_sameProgress c w houtput
    rw [hkept.starts, Command.format, hstarts]
    simp only [formatStarts, true_and]

/-! ### Between building and formatting -/

/-- Up to the written script, only the build is started. -/
theorem Course.starts [Depths] {result : Except Abort Unit}
    (h : Course r c build w result report w') :
    w'.starts = w.starts ++ buildStarts c build := by
  have hkept := h.lasting Machine.lasting_sameProgress Machine.sameProgress_of_tree
  rw [hkept.starts, starts_buildStage]

theorem exists_write_of_done [Depths] (h : Course r c build w (.ok ()) report w') :
    ∃ s u, s.path = target r c ∧ (write s).on u = (.ok (target r c), w') := by
  cases h with
  | @done _ _ _ s _ u _ hprepares hscript hwrites =>
    have hpath := path_of_scriptOf hscript
    have hwrite := on_write_of_writes hwrites
    refine ⟨s, u, hpath, ?_⟩
    cases hwrites
    rw [hwrite, hpath]

/-- The script was written before the formatter came to its turn: the run went up to writing it, at
the path that is reported, with nothing but the build started, and what was left to do was the
formatting. -/
def WrittenFirst [Depths] (r : Request) (c : Config) (steps : Steps) (w : Machine) (report : Report)
    (w' : Machine) : Prop :=
  ∃ s u u' told, s.path = target r c ∧ (write s).on u = (.ok (target r c), u') ∧
    (upToWriting r c steps.build).on (.start r.contractName) w = ((.ok (), told), u') ∧
      u'.starts = w.starts ++ buildStarts c steps.build ∧
        (formatStage c steps.format { told with ok := true } :
            OnMachine (Except Crash Report)).run u' = (.ok report, w')

/-- What a run that returns has started: the build, where it is asked for, turned on and not empty;
and after it the formatter on the script, where the run went well and formatting is asked for and
turned on, which is after the script was written. -/
theorem starts_of_run [Depths]
    (hrun : (run r c steps : OnMachine (Except Crash Report)).run w = (.ok report, w')) :
    w'.starts = w.starts ++ buildStarts c steps.build ++
        formatStarts r c steps.format report.ok ∧
      (report.ok = true → report.output = some (target r c)) ∧
        (formatStarts r c steps.format report.ok ≠ [] → WrittenFirst r c steps w report w') := by
  rcases run_cases r c steps w with ⟨crash, told, u, h⟩ | ⟨f, told, u, h⟩ | ⟨told, u, h⟩
  · rw [run_of_crash h] at hrun
    cases hrun
  · rw [run_of_failure h] at hrun
    cases hrun
    have hok : told.ok = false := h.ok_eq_false
    refine ⟨?_, ?_, ?_⟩
    · rw [Machine.starts_takeRecord, h.starts]
      simp [formatStarts, hok]
    · simp [hok]
    · simp [formatStarts, hok]
  · have houtput := h.output_of_done
    have hformat := starts_formatStage { told with ok := true } steps.format u houtput
    rw [run_of_done h] at hrun
    rw [hrun] at hformat
    obtain ⟨formatted, warnings, rfl⟩ := formatStage_report (congrArg Prod.fst hrun)
    refine ⟨hformat.trans (by rw [h.starts]), fun _ => houtput, ?_⟩
    intro _
    obtain ⟨s, u₀, hpath, hwrite⟩ := exists_write_of_done h
    exact ⟨s, u₀, u, told, hpath, hwrite, on_upToWriting_of_course h, h.starts, hrun⟩

theorem starts_of_run_make : ∃ _ : Depths, ∃ report w',
    (run plainRequest makeConfig ⟨true, true⟩ : OnMachine (Except Crash Report)).run
        unformattedMachine = (.ok report, w') ∧
      w'.starts = [⟨["make"], none, none⟩,
        ⟨["make", "fmt", "script/deployers/VDeployer.s.sol"], none, none⟩] ∧
        WrittenFirst plainRequest makeConfig ⟨true, true⟩ unformattedMachine report w' := by
  have hok : (makeRun unformattedMachine).1.toOption.map Report.ok = some true := by
    decide +kernel
  rcases hrun : makeRun unformattedMachine with ⟨crash | report, w'⟩
  · simp [hrun, Except.toOption] at hok
  · have hreport : report.ok = true := by simpa [hrun, Except.toOption] using hok
    rw [← run_eq_makeRun] at hrun
    let _ : Depths := .ofThousand
    obtain ⟨hstarts, -, hwritten⟩ := starts_of_run hrun
    rw [hreport] at hstarts hwritten
    have hformat : formatStarts plainRequest makeConfig true true =
        [⟨["make", "fmt", "script/deployers/VDeployer.s.sol"], none, none⟩] := by decide
    refine ⟨.ofThousand, report, w', hrun, ?_, hwritten (by rw [hformat]; simp)⟩
    rw [hstarts, hformat]
    rfl

end Generate

end DeployScript
