import DeployScript.CommandLine.Run
import DeployScript.Proofs.Config.Loading
import DeployScript.Proofs.Generate.Course
import DeployScript.Proofs.Log.Delivery

/-!
# The course of a command line

Sorting out a command line only looks at the machine. What an invocation then does falls into its
work, which loads the configuration and generates the script, and the showing of what came of it.
The work has no part in what is shown, and showing has no part in the files and the programs; how a
whole command ends is told by what its work comes to, in three ways.
-/

namespace DeployScript

/-! ### Looking -/

namespace Action

variable {α β : Type}

/-- The action leaves every machine as it is. -/
def Looks (a : Action OnMachine α) : Prop := ∀ w, (a.on w).2 = w

theorem looks_pure (x : α) : Looks (pure x : Action OnMachine α) := fun _ => rfl

theorem looks_bind {a : Action OnMachine α} {f : α → Action OnMachine β} (ha : Looks a)
    (hf : ∀ x, Looks (f x)) : Looks (a >>= f) := by
  intro w
  have hfirst := ha w
  rw [on_bind]
  rcases hon : a.on w with ⟨_ | x, w'⟩ <;> rw [hon] at hfirst <;> subst hfirst
  · rfl
  · exact hf x _

theorem looks_checkPath (p : Path) : Looks (checkPath p) := by
  rw [checkPath]
  split
  · exact fun _ => rfl
  · exact looks_pure _

end Action

namespace CommandLine

open DeployScript.Action (Looks looks_pure looks_bind)

/-! ### Sorting out a command line -/

theorem looks_checkConfig (value : String) : Looks (checkConfig value) := by
  rw [checkConfig]
  split
  · exact looks_pure _
  · apply looks_bind (Action.looks_checkPath _)
    intro _
    apply looks_bind (fun _ => rfl)
    intro found
    split <;> exact looks_pure _

theorem looks_checkSetting (g : Given) (s : Setting) : Looks (checkSetting g s) := by
  unfold checkSetting
  split
  · exact looks_pure _
  · exact looks_pure _
  · exact looks_checkConfig _
  · exact looks_pure _

theorem looks_checkAll (g : Given) (settings : List Setting) : Looks (checkAll g settings) := by
  induction settings with
  | nil => exact looks_pure _
  | cons s rest ih =>
    rw [checkAll]
    apply looks_bind (looks_checkSetting g s)
    rintro (e | ⟨⟩)
    · exact looks_pure _
    · exact ih

theorem looks_demand (arguments : List String) : Looks (demand arguments) := by
  rw [demand]
  split
  · exact looks_pure _
  · next g _ =>
    split
    · exact looks_pure _
    · exact looks_pure _
    · apply looks_bind (looks_checkAll g _)
      rintro (e | ⟨⟩)
      · exact looks_pure _
      · dsimp only
        split <;> exact looks_pure _

/-- On this machine the command line asks for this. -/
def Asks (arguments : List String) (w : Machine) (d : Demand) : Prop :=
  ((demand arguments : Action OnMachine _).on w).1 = .ok (.ok d)

instance (arguments : List String) (w : Machine) (d : Demand) : Decidable (Asks arguments w d) :=
  inferInstanceAs (Decidable (_ = _))

theorem Asks.on_command [Depths] {arguments : List String} {w : Machine} {d : Demand}
    (h : Asks arguments w d) (env : Environment) :
    (command arguments env : Action OnMachine Nat).on w = (perform env d).on w := by
  have hon : (demand arguments : Action OnMachine _).on w = (.ok (.ok d), w) :=
    Prod.ext h (looks_demand arguments w)
  rw [command, Action.on_bind_ok hon]

/-! ### Working and showing -/

def loadConfig [Depths] (i : Invocation) : Action OnMachine Config :=
  Config.load (i.config.map fun text => Path.parse text) true

/-- An invocation without what is shown of it: the configuration is loaded, and the script is
generated. -/
def work [Depths] (i : Invocation) : Action OnMachine Report := do
  let config ← loadConfig i
  match ← (Generate.run i.request config i.steps : OnMachine _) with
  | .error crash => Action.crash crash
  | .ok report => return report

def showReport (i : Invocation) (report : Report) : Action OnMachine Nat := do
  (Host.complain (reportErrors i report) : OnMachine Unit)
  Action.print (reportOutput i report)
  return statusOf report

theorem generate_eq_work [Depths] (i : Invocation) :
    (generate i : Action OnMachine Nat) = work i >>= showReport i := by
  simp only [generate, work, loadConfig, bind_assoc]
  congr 1
  funext config
  congr 1
  funext result
  cases result with
  | error crash => rfl
  | ok report => rfl

theorem on_work_of_loadError [Depths] {i : Invocation} {w w' : Machine} {e : Abort}
    (h : (loadConfig i).on w = (.error e, w')) : (work i).on w = (.error e, w') :=
  Action.on_bind_error h

theorem on_work_of_run [Depths] {i : Invocation} {c : Config} {w w₁ w' : Machine}
    {result : Except Crash Report} (hload : (loadConfig i).on w = (.ok c, w₁))
    (hrun : (Generate.run i.request c i.steps : OnMachine _).run w₁ = (result, w')) :
    (work i).on w = (result.mapError .crash, w') := by
  have hhost : (liftM (Generate.run i.request c i.steps : OnMachine _) : Action OnMachine _).on w₁ =
      (.ok result, w') := by
    rw [Action.on_lift, hrun]
  rw [work, Action.on_bind_ok hload, Action.on_bind_ok hhost]
  cases result <;> rfl

/-- What is kept when the log is told something, when a program is started and when the files change
is kept by the work of an invocation. -/
theorem keeps_work [Depths] {R : Machine → Machine → Prop} (hR : Machine.Enduring R)
    (htree : ∀ w tree, R w { w with tree }) (i : Invocation) : Action.Keeps R (work i) := by
  rw [work]
  apply Action.keeps_bind hR.toLasting (Config.keeps_load hR.toLasting _ true)
  intro c
  have hrun : Action.Keeps R
      (liftM (Generate.run i.request c i.steps : OnMachine (Except Crash Report))) := fun w =>
    Generate.enduring_of_run hR htree i.request c i.steps w
  apply Action.keeps_bind hR.toLasting hrun
  rintro (crash | report)
  · exact Action.keeps_crash hR.toLasting crash
  · exact Action.keeps_pure hR.toLasting report

def planOf (env : Environment) (i : Invocation) : Log.Plan :=
  .make ⟨some (i.verbosity.levelName env), none, none⟩ env

/-- The machine once the log is set up for an invocation, without a log file. -/
def ready (env : Environment) (i : Invocation) (w : Machine) : Machine :=
  { w with log := ⟨(planOf env i).threshold, [(planOf env i).console]⟩ }

theorem file_make_of_unset {env : Environment} {level : Option String}
    (henv : env.nonEmpty? logFileVariable = none) :
    (Log.Plan.make ⟨level, none, none⟩ env).file = none := by
  simp [Log.Plan.make, henv]

theorem file_log_ready (env : Environment) (i : Invocation) (w : Machine) :
    (ready env i w).log.file = none := by
  rw [Log.State.file_eq_none_iff]
  intro h hmem
  rw [List.mem_singleton.1 hmem, planOf, Log.make_eq, Log.sink_consoleHandler]

variable {arguments : List String} {env : Environment} {i : Invocation} {w w' : Machine}

theorem on_perform_generate [Depths] (henv : env.nonEmpty? logFileVariable = none) (i : Invocation)
    (w : Machine) :
    (perform env (.generate i)).on w = (work i >>= showReport i).on (ready env i w) := by
  rw [perform, Action.on_bind_ok (Log.on_install (file_make_of_unset henv) w), generate_eq_work]
  rfl

/-! ### How a command ends -/

theorem run_of_on [Depths] {x : Except Abort Nat}
    (h : (command arguments env : Action OnMachine Nat).on w = (x, w')) :
    (run arguments env : OnMachine (Except Crash Nat)).run w =
      (match x with
        | .error (.crash crash) => (pure (.error crash) : OnMachine (Except Crash Nat))
        | .error (.failure failure) => do
          Host.complain (failureLine failure.message)
          pure (.ok exitError)
        | .ok status => pure (.ok status)).run w' := by
  rw [Action.on] at h
  rw [run, StateT.run_bind, h]
  rfl

section Generating

variable (hasks : Asks arguments w (.generate i)) (henv : env.nonEmpty? logFileVariable = none)
include hasks henv

/-- The work crashes, and so does the command. -/
theorem run_of_workCrash [Depths] {crash : Crash}
    (hwork : (work i).on (ready env i w) = (.error (.crash crash), w')) :
    (run arguments env : OnMachine (Except Crash Nat)).run w = (.error crash, w') := by
  have hon : (command arguments env : Action OnMachine Nat).on w = (.error (.crash crash), w') := by
    rw [hasks.on_command, on_perform_generate henv, Action.on_bind_error hwork]
  rw [run_of_on hon]
  rfl

/-- The work fails without a report, and the failure is told on standard error. -/
theorem run_of_workFailure [Depths] {f : Failure}
    (hwork : (work i).on (ready env i w) = (.error (.failure f), w')) :
    (run arguments env : OnMachine (Except Crash Nat)).run w =
      (.ok exitError, { w' with errors := w'.errors ++ failureLine f.message }) := by
  have hon : (command arguments env : Action OnMachine Nat).on w =
      (.error (.failure f), w') := by
    rw [hasks.on_command, on_perform_generate henv, Action.on_bind_error hwork]
  rw [run_of_on hon]
  rfl

/-- The work comes to a report, which is shown, unless what is shown of it is broken. -/
theorem run_of_workReport [Depths] {report : Report}
    (hwork : (work i).on (ready env i w) = (.ok report, w')) :
    (run arguments env : OnMachine (Except Crash Nat)).run w =
      match (reportOutput i report).string? with
      | some text => (.ok (statusOf report),
          { w' with errors := w'.errors ++ reportErrors i report, output := w'.output ++ text })
      | none => (.error .brokenText, { w' with errors := w'.errors ++ reportErrors i report }) := by
  have hon : (command arguments env : Action OnMachine Nat).on w = (showReport i report).on w' := by
    rw [hasks.on_command, on_perform_generate henv, Action.on_bind_ok hwork]
  cases htext : (reportOutput i report).string? with
  | some text =>
    have hshow : (showReport i report).on w' = (.ok (statusOf report),
        { w' with errors := w'.errors ++ reportErrors i report, output := w'.output ++ text }) := by
      rw [showReport, Action.print, htext]
      rfl
    rw [run_of_on (hon.trans hshow)]
    rfl
  | none =>
    have hshow : (showReport i report).on w' = (.error (.crash .brokenText),
        { w' with errors := w'.errors ++ reportErrors i report }) := by
      rw [showReport, Action.print, htext]
      rfl
    rw [run_of_on (hon.trans hshow)]
    rfl

end Generating

end CommandLine

end DeployScript
