import DeployScript.Proofs.Files.Directories
import DeployScript.Proofs.Generate.Stage

/-!
# The course of a run

`Course` is the list of the ways in which a run can go up to the written script: it ends at one of
its stages, or it gets through all of them. Every run has a course, and its course determines what
it comes to, its report and the machine that it leaves; so what a run does is shown by cases.
-/

namespace DeployScript

/-! ### Running with a report beside -/

namespace Generate

variable {α β : Type}

/-- What a part of a run comes to, the report after it, and the machine that it leaves. -/
def Staged.on (x : Staged OnMachine α) (report : Report) (w : Machine) :
    (Except Abort α × Report) × Machine := (x.run.run report).run w

namespace Staged

variable {x : Staged OnMachine α} {f : α → Staged OnMachine β} {report report' : Report}
  {w w' : Machine}

theorem on_bind_ok {y : α} (h : x.on report w = ((.ok y, report'), w')) :
    (x >>= f).on report w = (f y).on report' w' := by
  simp only [on, ExceptT.run_bind, StateT.run_bind] at h ⊢
  rw [h]
  rfl

theorem on_bind_error {e : Abort} (h : x.on report w = ((.error e, report'), w')) :
    (x >>= f).on report w = ((.error e, report'), w') := by
  simp only [on, ExceptT.run_bind, StateT.run_bind] at h ⊢
  rw [h]
  rfl

theorem on_stage {a : Action OnMachine α} {result : Except Abort α} (report : Report)
    (h : a.on w = (result, w')) : (stage a).on report w = ((result, report), w') := by
  rw [Action.on] at h
  simp only [stage, on, StateT.run_lift, ExceptT.run_mk, StateT.run_bind]
  rw [h]
  rfl

theorem on_modify (change : Report → Report) (report : Report) (w : Machine) :
    (modify change : Staged OnMachine PUnit).on report w = ((.ok (), change report), w) := rfl

end Staged

/-! ### Writing -/

open Deployer (Script)

variable [Depths]

/-- The ways in which writing a script can go, with what it comes to and the machine it leaves. -/
inductive Writes (s : Script) (w : Machine) : Except Abort Path → Machine → Prop
  /-- Making the directories above ends the run. -/
  | directoriesEnd {e : Abort} {w' : Machine}
      (hdirs : (Action.makeDirectories s.path.parent).on w = (.error e, w')) :
      Writes s w (.error e) w'
  /-- The directories above cannot be made. -/
  | directoriesRefused {e : FileError} {w' : Machine}
      (hdirs : (Action.makeDirectories s.path.parent).on w = (.ok (.error e), w')) :
      Writes s w (.error (.failure (.write s.path.text e))) w'
  /-- No file can have the path. -/
  | badPath {c : Crash} {w' : Machine}
      (hdirs : (Action.makeDirectories s.path.parent).on w = (.ok (.ok ()), w'))
      (hpath : Action.badPath? s.path = some c) : Writes s w (.error (.crash c)) w'
  /-- The file cannot be opened. -/
  | refused {cause : FileCause} {w' : Machine}
      (hdirs : (Action.makeDirectories s.path.parent).on w = (.ok (.ok ()), w'))
      (hpath : Action.badPath? s.path = none)
      (hwrite : w'.tree.write w'.directory s.path (s.content.utf8?.getD ByteArray.empty) =
        .error cause) :
      Writes s w (.error (.failure (.write s.path.text (Machine.fileError s.path cause)))) w'
  /-- The file is opened, and the content cannot be encoded. -/
  | broken {w' : Machine} {t : FileTree}
      (hdirs : (Action.makeDirectories s.path.parent).on w = (.ok (.ok ()), w'))
      (hpath : Action.badPath? s.path = none) (hcontent : s.content.utf8? = none)
      (hwrite : w'.tree.write w'.directory s.path ByteArray.empty = .ok t) :
      Writes s w (.error (.crash .brokenText)) { w' with tree := t }
  /-- The file is written. -/
  | written {w' : Machine} {t : FileTree} {bytes : ByteArray}
      (hdirs : (Action.makeDirectories s.path.parent).on w = (.ok (.ok ()), w'))
      (hpath : Action.badPath? s.path = none) (hcontent : s.content.utf8? = some bytes)
      (hwrite : w'.tree.write w'.directory s.path bytes = .ok t) :
      Writes s w (.ok s.path) ({ w' with tree := t }.takeRecord
        (.info logger ("Wrote " ++ s.path.text ++ s!" ({s.content.length} bytes)")))

theorem exists_writes (s : Script) (w : Machine) : ∃ result w', Writes s w result w' := by
  rcases hdirs : (Action.makeDirectories s.path.parent).on w with ⟨e | e | ⟨⟩, w'⟩
  · exact ⟨_, _, .directoriesEnd hdirs⟩
  · exact ⟨_, _, .directoriesRefused hdirs⟩
  cases hpath : Action.badPath? s.path with
  | some c => exact ⟨_, _, .badPath hdirs hpath⟩
  | none =>
    cases hcontent : s.content.utf8? with
    | none =>
      cases hwrite : w'.tree.write w'.directory s.path ByteArray.empty with
      | error cause => exact ⟨_, _, .refused hdirs hpath (by rw [hcontent]; exact hwrite)⟩
      | ok t => exact ⟨_, _, .broken hdirs hpath hcontent hwrite⟩
    | some bytes =>
      cases hwrite : w'.tree.write w'.directory s.path bytes with
      | error cause => exact ⟨_, _, .refused hdirs hpath (by rw [hcontent]; exact hwrite)⟩
      | ok t => exact ⟨_, _, .written hdirs hpath hcontent hwrite⟩

theorem on_write_of_writes {s : Script} {w w' : Machine} {result : Except Abort Path}
    (h : Writes s w result w') : (write s).on w = (result, w') := by
  rw [write]
  cases h with
  | directoriesEnd hdirs => exact Action.on_bind_error hdirs
  | directoriesRefused hdirs => exact Action.on_bind_ok hdirs
  | badPath hdirs hpath =>
    exact (Action.on_bind_ok hdirs).trans
      (Action.on_bind_error (Action.on_writeText_of_badPath hpath))
  | refused hdirs hpath hwrite =>
    exact (Action.on_bind_ok hdirs).trans
      (Action.on_bind_ok (Action.on_writeText_of_error hpath hwrite))
  | broken hdirs hpath hcontent hwrite =>
    exact (Action.on_bind_ok hdirs).trans
      (Action.on_bind_error (Action.on_writeText_of_broken hpath hcontent hwrite))
  | written hdirs hpath hcontent hwrite =>
    exact (Action.on_bind_ok hdirs).trans
      (Action.on_bind_ok (Action.on_writeText_of_utf8 hpath hcontent hwrite))

/-- What is closed for writing, with the failures of writing, holds of writing a script. -/
theorem closed_write {allowed : Failure → Prop} {C : ∀ α : Type, Action OnMachine α → Prop}
    (hC : Action.ClosedForWriting allowed C) (hallowed : ∀ path e, allowed (.write path e))
    (s : Script) : C Path (write s) := by
  rw [write]
  apply hC.bind (hC.makeDirectories _)
  rintro (e | ⟨⟩)
  · exact hC.fail (hallowed _ _)
  · apply hC.bind (hC.writeText _ _)
    rintro (e | ⟨⟩)
    · exact hC.fail (hallowed _ _)
    · apply hC.bind (hC.record _)
      intro _
      exact hC.pure _

/-! ### Up to the written script -/

variable {r : Request} {c : Config} {build built : Bool} {abi : List Abi.Entry}
  {template : Option String} {w w' : Machine}

def loadingReport (r : Request) (c : Config) (built : Bool) : Report :=
  { Report.start r.contractName with built, artifact := some (r.artifactPath c.artifactsDir) }

def resolvedReport (r : Request) (c : Config) (built : Bool) (abi : List Abi.Entry) : Report :=
  { loadingReport r c built with arguments := some (Abi.resolve abi) }

/-- The run has built, and loaded the interface: `w'` is left when its arguments are known. -/
def Loads (r : Request) (c : Config) (build : Bool) (w : Machine) (built : Bool)
    (abi : List Abi.Entry) (w' : Machine) : Prop :=
  ∃ w₁ w₂, (buildStage c build).on w = (.ok built, w₁) ∧
    (Artifact.load (r.artifactPath c.artifactsDir)).on w₁ = (.ok abi, w₂) ∧
      w' = ((resolve abi : OnMachine Abi.Arguments).run w₂).2

/-- The run has all that it makes the script of, and `w'` is left. -/
def Prepares (r : Request) (c : Config) (build : Bool) (w : Machine) (built : Bool)
    (abi : List Abi.Entry) (template : Option String) (w' : Machine) : Prop :=
  ∃ w₃, Loads r c build w built abi w₃ ∧ (templateStage c).on w₃ = (.ok template, w')

def scriptOf (r : Request) (c : Config) (abi : List Abi.Entry) (template : Option String) :
    Except Template.Error Script :=
  Deployer.script r (Abi.resolve abi) (r.resolveOutputDir c.outputDir) template

/-- The ways in which a run can go up to the written script, with what it comes to, its report and
the machine it leaves. -/
inductive Course (r : Request) (c : Config) (build : Bool) (w : Machine) :
    Except Abort Unit → Report → Machine → Prop
  | build {e : Abort} {w' : Machine} (hbuild : (buildStage c build).on w = (.error e, w')) :
      Course r c build w (.error e) (.start r.contractName) w'
  | artifact {built : Bool} {e : Abort} {w₁ w' : Machine}
      (hbuild : (buildStage c build).on w = (.ok built, w₁))
      (hload : (Artifact.load (r.artifactPath c.artifactsDir)).on w₁ = (.error e, w')) :
      Course r c build w (.error e) (loadingReport r c built) w'
  | template {built : Bool} {abi : List Abi.Entry} {e : Abort} {w₃ w' : Machine}
      (hloads : Loads r c build w built abi w₃)
      (htemplate : (templateStage c).on w₃ = (.error e, w')) :
      Course r c build w (.error e) (resolvedReport r c built abi) w'
  | script {built : Bool} {abi : List Abi.Entry} {template : Option String} {e : Template.Error}
      {w' : Machine} (hprepares : Prepares r c build w built abi template w')
      (hscript : scriptOf r c abi template = .error e) :
      Course r c build w (.error (.failure (.template e))) (resolvedReport r c built abi) w'
  | write {built : Bool} {abi : List Abi.Entry} {template : Option String} {s : Script}
      {e : Abort} {w₄ w' : Machine} (hprepares : Prepares r c build w built abi template w₄)
      (hscript : scriptOf r c abi template = .ok s) (hwrites : Writes s w₄ (.error e) w') :
      Course r c build w (.error e) (resolvedReport r c built abi) w'
  | done {built : Bool} {abi : List Abi.Entry} {template : Option String} {s : Script}
      {output : Path} {w₄ w' : Machine} (hprepares : Prepares r c build w built abi template w₄)
      (hscript : scriptOf r c abi template = .ok s) (hwrites : Writes s w₄ (.ok output) w') :
      Course r c build w (.ok ()) { resolvedReport r c built abi with output := some output } w'

theorem exists_course (r : Request) (c : Config) (build : Bool) (w : Machine) :
    ∃ result report w', Course r c build w result report w' := by
  rcases hbuild : (buildStage c build).on w with ⟨e | built, w₁⟩
  · exact ⟨_, _, _, .build hbuild⟩
  rcases hload : (Artifact.load (r.artifactPath c.artifactsDir)).on w₁ with ⟨e | abi, w₂⟩
  · exact ⟨_, _, _, .artifact hbuild hload⟩
  have hloads : Loads r c build w built abi ((resolve abi : OnMachine Abi.Arguments).run w₂).2 :=
    ⟨w₁, w₂, hbuild, hload, rfl⟩
  rcases htemplate : (templateStage c).on ((resolve abi : OnMachine Abi.Arguments).run w₂).2 with
    ⟨e | template, w₄⟩
  · exact ⟨_, _, _, .template hloads htemplate⟩
  have hprepares : Prepares r c build w built abi template w₄ := ⟨_, hloads, htemplate⟩
  cases hscript : scriptOf r c abi template with
  | error e => exact ⟨_, _, _, .script hprepares hscript⟩
  | ok s =>
    obtain ⟨result, w', hwrites⟩ := exists_writes s w₄
    cases result with
    | error e => exact ⟨_, _, _, .write hprepares hscript hwrites⟩
    | ok output => exact ⟨_, _, _, .done hprepares hscript hwrites⟩

def fromTemplate (r : Request) (c : Config) (arguments : Abi.Arguments) :
    Staged OnMachine Unit := do
  let template ← stage (templateStage c)
  match Deployer.script r arguments (r.resolveOutputDir c.outputDir) template with
  | .error e => stage (Action.fail (.template e))
  | .ok script =>
    let output ← stage (write script)
    modify fun report => { report with output := some output }

def fromLoading (r : Request) (c : Config) : Staged OnMachine Unit := do
  let abi ← stage (Artifact.load (r.artifactPath c.artifactsDir))
  let arguments ← stage (resolve abi : OnMachine Abi.Arguments)
  modify fun report => { report with arguments := some arguments }
  fromTemplate r c arguments

theorem on_upToWriting_of_buildStage {w₁ : Machine}
    (hbuild : (buildStage c build).on w = (.ok built, w₁)) :
    (upToWriting r c build).on (.start r.contractName) w =
      (fromLoading r c).on (loadingReport r c built) w₁ := by
  rw [upToWriting, Staged.on_bind_ok (Staged.on_stage _ hbuild),
    Staged.on_bind_ok (Staged.on_modify _ _ _), Staged.on_bind_ok (Staged.on_modify _ _ _)]
  rfl

theorem on_upToWriting_of_loads (h : Loads r c build w built abi w') :
    (upToWriting r c build).on (.start r.contractName) w =
      (fromTemplate r c (Abi.resolve abi)).on (resolvedReport r c built abi) w' := by
  obtain ⟨w₁, w₂, hbuild, hload, rfl⟩ := h
  have hresolve : (liftM (resolve abi : OnMachine Abi.Arguments) : Action OnMachine _).on w₂ =
      (.ok (Abi.resolve abi), ((resolve abi : OnMachine Abi.Arguments).run w₂).2) := rfl
  rw [on_upToWriting_of_buildStage hbuild, fromLoading,
    Staged.on_bind_ok (Staged.on_stage _ hload), Staged.on_bind_ok (Staged.on_stage _ hresolve)]
  rfl

/-- A run does what its course says. -/
theorem on_upToWriting_of_course {result : Except Abort Unit} {report : Report}
    (h : Course r c build w result report w') :
    (upToWriting r c build).on (.start r.contractName) w = ((result, report), w') := by
  cases h with
  | build hbuild => exact Staged.on_bind_error (Staged.on_stage _ hbuild)
  | artifact hbuild hload =>
    rw [on_upToWriting_of_buildStage hbuild, fromLoading]
    exact Staged.on_bind_error (Staged.on_stage _ hload)
  | template hloads htemplate =>
    rw [on_upToWriting_of_loads hloads, fromTemplate]
    exact Staged.on_bind_error (Staged.on_stage _ htemplate)
  | script hprepares hscript =>
    obtain ⟨w₃, hloads, htemplate⟩ := hprepares
    rw [on_upToWriting_of_loads hloads, fromTemplate,
      Staged.on_bind_ok (Staged.on_stage _ htemplate), ← scriptOf, hscript]
    exact Staged.on_stage _ rfl
  | write hprepares hscript hwrites =>
    obtain ⟨w₃, hloads, htemplate⟩ := hprepares
    rw [on_upToWriting_of_loads hloads, fromTemplate,
      Staged.on_bind_ok (Staged.on_stage _ htemplate), ← scriptOf, hscript]
    exact Staged.on_bind_error (Staged.on_stage _ (on_write_of_writes hwrites))
  | done hprepares hscript hwrites =>
    obtain ⟨w₃, hloads, htemplate⟩ := hprepares
    rw [on_upToWriting_of_loads hloads, fromTemplate,
      Staged.on_bind_ok (Staged.on_stage _ htemplate), ← scriptOf, hscript]
    exact Staged.on_bind_ok (Staged.on_stage _ (on_write_of_writes hwrites))

/-! ### The run as a whole -/

variable {steps : Steps} {report : Report}

theorem run_eq_of_on {result : Except Abort Unit}
    (h : (upToWriting r c steps.build).on (.start r.contractName) w = ((result, report), w')) :
    (run r c steps : OnMachine (Except Crash Report)).run w =
      (match result with
        | .error (.crash crash) => (pure (.error crash) : OnMachine (Except Crash Report))
        | .error (.failure f) => do
          Host.record (.debug logger (s!"Generation aborted ({f.kind}): " ++ f.message))
          pure (.ok { report with failure := some f })
        | .ok () => formatStage c steps.format { report with ok := true }).run w' := by
  rw [Staged.on] at h
  rw [run, StateT.run_bind, h]
  rfl

theorem run_of_crash {crash : Crash}
    (h : Course r c steps.build w (.error (.crash crash)) report w') :
    (run r c steps : OnMachine (Except Crash Report)).run w = (.error crash, w') := by
  rw [run_eq_of_on (on_upToWriting_of_course h)]
  rfl

theorem run_of_failure {f : Failure}
    (h : Course r c steps.build w (.error (.failure f)) report w') :
    (run r c steps : OnMachine (Except Crash Report)).run w =
      (.ok { report with failure := some f },
        w'.takeRecord (.debug logger (s!"Generation aborted ({f.kind}): " ++ f.message))) := by
  rw [run_eq_of_on (on_upToWriting_of_course h)]
  rfl

theorem run_of_done (h : Course r c steps.build w (.ok ()) report w') :
    (run r c steps : OnMachine (Except Crash Report)).run w =
      (formatStage c steps.format { report with ok := true } : OnMachine _).run w' := by
  rw [run_eq_of_on (on_upToWriting_of_course h)]

/-- A run crashes, fails, or gets through. -/
theorem run_cases (r : Request) (c : Config) (steps : Steps) (w : Machine) :
    (∃ crash report w', Course r c steps.build w (.error (.crash crash)) report w') ∨
      (∃ f report w', Course r c steps.build w (.error (.failure f)) report w') ∨
        ∃ report w', Course r c steps.build w (.ok ()) report w' := by
  obtain ⟨result, report, w', h⟩ := exists_course r c steps.build w
  rcases result with (f | crash) | ⟨⟩
  · exact .inr (.inl ⟨f, report, w', h⟩)
  · exact .inl ⟨crash, report, w', h⟩
  · exact .inr (.inr ⟨report, w', h⟩)

/-! ### What a run keeps -/

section KeepingAfterBuilding

variable {R : Machine → Machine → Prop} (hR : Machine.Lasting R)
include hR

theorem Loads.lasting (h : Loads r c build w built abi w') :
    R ((buildStage c build).on w).2 w' := by
  obtain ⟨w₁, w₂, hbuild, hload, rfl⟩ := h
  have hloaded := (Artifact.keeps_load hR _).of_on hload
  rw [hbuild]
  exact hR.trans hloaded (lasting_resolve hR abi w₂)

theorem Prepares.lasting (h : Prepares r c build w built abi template w') :
    R ((buildStage c build).on w).2 w' := by
  obtain ⟨w₃, hloads, htemplate⟩ := h
  exact hR.trans (hloads.lasting hR) ((keeps_templateStage hR c).of_on htemplate)

variable (htree : ∀ w tree, R w { w with tree })
include htree

theorem Writes.lasting {s : Script} {result : Except Abort Path} (h : Writes s w result w') :
    R w w' :=
  (closed_write (Action.closedForWriting_keeps hR htree) (fun _ _ => trivial) s).of_on
    (on_write_of_writes h)

/-- What is kept when the log is told something and when the files change is kept from the build to
the written script. -/
theorem Course.lasting {result : Except Abort Unit} (h : Course r c build w result report w') :
    R ((buildStage c build).on w).2 w' := by
  cases h with
  | build hbuild =>
    rw [hbuild]
    exact hR.refl w'
  | artifact hbuild hload =>
    rw [hbuild]
    exact (Artifact.keeps_load hR _).of_on hload
  | template hloads htemplate =>
    exact hR.trans (hloads.lasting hR) ((keeps_templateStage hR c).of_on htemplate)
  | script hprepares _ => exact hprepares.lasting hR
  | write hprepares _ hwrites => exact hR.trans (hprepares.lasting hR) (hwrites.lasting hR htree)
  | done hprepares _ hwrites => exact hR.trans (hprepares.lasting hR) (hwrites.lasting hR htree)

end KeepingAfterBuilding

section Keeping

variable {R : Machine → Machine → Prop} (hR : Machine.Enduring R)
include hR

theorem Loads.enduring (h : Loads r c build w built abi w') : R w w' :=
  hR.trans (keeps_buildStage hR c build w) (h.lasting hR.toLasting)

theorem Prepares.enduring (h : Prepares r c build w built abi template w') : R w w' :=
  hR.trans (keeps_buildStage hR c build w) (h.lasting hR.toLasting)

variable (htree : ∀ w tree, R w { w with tree })
include htree

/-- What is kept when a program is started too is kept up to the written script. -/
theorem Course.enduring {result : Except Abort Unit} (h : Course r c build w result report w') :
    R w w' :=
  hR.trans (keeps_buildStage hR c build w) (h.lasting hR.toLasting htree)

/-- The same is kept by the run as a whole. -/
theorem enduring_of_run (r : Request) (c : Config) (steps : Steps) (w : Machine) :
    R w ((run r c steps : OnMachine (Except Crash Report)).run w).2 := by
  rcases run_cases r c steps w with ⟨crash, report, w', h⟩ | ⟨f, report, w', h⟩ | ⟨report, w', h⟩
  · rw [run_of_crash h]
    exact h.enduring hR htree
  · rw [run_of_failure h]
    exact hR.trans (h.enduring hR htree) (hR.takeRecord _ _)
  · rw [run_of_done h]
    exact hR.trans (h.enduring hR htree) (enduring_formatStage hR _ _ _ _)

end Keeping

end Generate

end DeployScript
