import DeployScript.Proofs.Generate.Course

/-!
# What a report tells

Every stage of a run has failures of its own, so that the label of a failure tells which stage it
was, and what is known at that stage is in the report. `Told` lists the reports that a run can end
with, stage by stage; that the parts of a report agree is read off this list.
-/

namespace DeployScript

namespace Generate

/-! ### Each stage has failures of its own -/

theorem failsWith_buildStage (c : Config) (wanted : Bool) :
    Action.FailsWith (fun f => ∃ reason, f = .build reason)
      (buildStage c wanted : Action OnMachine Bool) := by
  rw [buildStage]
  split
  · apply Action.failsWith_bind (Action.failsWith_lift _)
    rintro (crash | receipt)
    · exact Action.failsWith_crash _
    · dsimp only
      split
      · exact Action.failsWith_fail ⟨_, rfl⟩
      · exact Action.failsWith_pure _
  · exact Action.failsWith_pure _

theorem failsWith_load [Depths] (p : Path) :
    Action.FailsWith (fun f => ∃ e, f = .artifact e) (Artifact.load p) := by
  apply Artifact.closed_load (Action.closedForWriting_failsWith _).toClosedForReading
  intro e
  exact ⟨e, rfl⟩

theorem failsWith_templateStage (c : Config) :
    Action.FailsWith (fun f => ∃ e, f = .template e) (templateStage c) := by
  apply closed_templateStage (Action.closedForWriting_failsWith _).toClosedForReading
  intro e
  exact ⟨e, rfl⟩

theorem failsWith_write [Depths] (s : Deployer.Script) :
    Action.FailsWith (fun f => ∃ path e, f = .write path e) (write s) := by
  apply closed_write (Action.closedForWriting_failsWith _)
  intro path e
  exact ⟨path, e, rfl⟩

/-! ### Building and formatting -/

variable {r : Request} {c : Config} {steps : Steps} {build built : Bool} {w w' : Machine}
  {report : Report}

/-- Something was built only where that was asked for and is turned on. -/
def BuildAsked (c : Config) (build built : Bool) : Prop :=
  built = true → build = true ∧ c.build.enabled = true

theorem buildAsked_of_on (h : (buildStage c build).on w = (.ok built, w')) :
    BuildAsked c build built := by
  rintro rfl
  cases build with
  | false => simp [on_buildStage_false] at h
  | true =>
    refine ⟨rfl, ?_⟩
    by_contra hdisabled
    have hskip : ((Command.build c.build none : OnMachine (Except Crash Receipt)).run w).1 =
        .ok (.skip (c.build.command ++ []) "build disabled") := by
      rw [Command.build, Command.runConfigured, if_neg hdisabled]
      rfl
    rw [on_buildStage_true, hskip] at h
    simp [builtOf, Receipt.skip, Receipt.isFailed, Receipt.isOk] at h

/-- What formatting tells: nothing, that it was done, or one warning. -/
inductive FormatTold (steps : Steps) : Bool → List Text → Prop
  | nothing : FormatTold steps false []
  | formatted (hwanted : steps.format = true) : FormatTold steps true []
  | warned (hwanted : steps.format = true) (warning : Text) : FormatTold steps false [warning]

theorem exists_formatTold {told : Report} {output : Path}
    (houtput : report.output = some output) (hformatted : report.formatted = false)
    (hwarnings : report.warnings = [])
    (h : ((formatStage c steps.format report : OnMachine (Except Crash Report)).run w).1 =
      .ok told) :
    ∃ formatted warnings, FormatTold steps formatted warnings ∧
      told = { report with formatted, warnings } := by
  have hsame : report = { report with formatted := false, warnings := [] } := by
    rw [← hformatted, ← hwarnings]
  cases hwanted : steps.format with
  | false =>
    rw [hwanted, run_formatStage_false] at h
    cases h
    exact ⟨false, [], .nothing, hsame⟩
  | true =>
    rw [hwanted, run_formatStage_true_fst c w houtput] at h
    obtain ⟨receipt, rfl⟩ : ∃ receipt, told = toldReport report output receipt := by
      generalize ((Command.format c.format output none : OnMachine _).run w).1 = came at h
      cases came with
      | error crash => cases h
      | ok receipt => exact ⟨receipt, (Except.ok.inj h).symm⟩
    rw [toldReport]
    split
    · rw [hwarnings, hformatted]
      exact ⟨false, [_], .warned hwanted _, rfl⟩
    · rw [hwarnings]
      cases receipt.isOk with
      | false => exact ⟨false, [], .nothing, rfl⟩
      | true => exact ⟨true, [], .formatted hwanted, rfl⟩

/-! ### The reports of a run -/

/-- The reports that a run can end with. -/
inductive Told (r : Request) (c : Config) (steps : Steps) : Report → Prop
  /-- The build failed. -/
  | build (reason : Text) :
      Told r c steps { Report.start r.contractName with failure := some (.build reason) }
  /-- The artifact could not be found or gave no interface. -/
  | artifact {built : Bool} (hbuilt : BuildAsked c steps.build built) (e : Artifact.Error) :
      Told r c steps { loadingReport r c built with failure := some (.artifact e) }
  /-- The template could not be read or rendered. -/
  | template {built : Bool} (hbuilt : BuildAsked c steps.build built) (abi : List Abi.Entry)
      (e : Template.Error) :
      Told r c steps { resolvedReport r c built abi with failure := some (.template e) }
  /-- The script could not be written. -/
  | write {built : Bool} (hbuilt : BuildAsked c steps.build built) (abi : List Abi.Entry)
      (path : Text) (e : FileError) :
      Told r c steps { resolvedReport r c built abi with failure := some (.write path e) }
  /-- The script was written. -/
  | done {built formatted : Bool} {warnings : List Text}
      (hbuilt : BuildAsked c steps.build built) (abi : List Abi.Entry) (output : Path)
      (hformat : FormatTold steps formatted warnings) :
      Told r c steps
        { resolvedReport r c built abi with
          ok := true, output := some output, formatted, warnings }

theorem buildAsked_of_loads [Depths] {abi : List Abi.Entry} (h : Loads r c build w built abi w') :
    BuildAsked c build built := by
  obtain ⟨w₁, w₂, hbuild, -, -⟩ := h
  exact buildAsked_of_on hbuild

theorem buildAsked_of_prepares [Depths] {abi : List Abi.Entry} {template : Option String}
    (h : Prepares r c build w built abi template w') : BuildAsked c build built := by
  obtain ⟨w₃, hloads, -⟩ := h
  exact buildAsked_of_loads hloads

theorem told_of_failure [Depths] {f : Failure}
    (h : Course r c steps.build w (.error (.failure f)) report w') :
    Told r c steps { report with failure := some f } := by
  cases h with
  | build hbuild =>
    obtain ⟨reason, rfl⟩ := (failsWith_buildStage c steps.build).of_on hbuild
    exact .build reason
  | artifact hbuild hload =>
    obtain ⟨e, rfl⟩ := (failsWith_load _).of_on hload
    exact .artifact (buildAsked_of_on hbuild) e
  | template hloads htemplate =>
    obtain ⟨e, rfl⟩ := (failsWith_templateStage c).of_on htemplate
    exact .template (buildAsked_of_loads hloads) _ e
  | script hprepares hscript => exact .template (buildAsked_of_prepares hprepares) _ _
  | write hprepares hscript hwrites =>
    obtain ⟨path, e, rfl⟩ := (failsWith_write _).of_on (on_write_of_writes hwrites)
    exact .write (buildAsked_of_prepares hprepares) _ path e

theorem told_of_run [Depths]
    (h : ((run r c steps : OnMachine (Except Crash Report)).run w).1 = .ok report) :
    Told r c steps report := by
  rcases run_cases r c steps w with ⟨crash, report₁, w₁, hcourse⟩ | ⟨f, report₁, w₁, hcourse⟩ |
    ⟨report₁, w₁, hcourse⟩
  · rw [run_of_crash hcourse] at h
    cases h
  · rw [run_of_failure hcourse] at h
    cases h
    exact told_of_failure hcourse
  · rw [run_of_done hcourse] at h
    cases hcourse with
    | @done built abi _ _ output _ _ hprepares hscript hwrites =>
      have houtput : ({ resolvedReport r c built abi with ok := true, output := some output } :
          Report).output = some output := rfl
      obtain ⟨formatted, warnings, hformat, rfl⟩ := exists_formatTold houtput rfl rfl h
      exact .done (buildAsked_of_prepares hprepares) _ _ hformat

/-! ### What its parts say about each other -/

def stageKinds : List String := ["build", "artifact_not_found", "parse", "template", "write"]

/-- The parts of a report agree on how far the run came. -/
structure Coherent (c : Config) (steps : Steps) (report : Report) : Prop where
  ok_iff_failure : report.ok = true ↔ report.failure = none
  ok_iff_output : report.ok = true ↔ report.output ≠ none
  kind : ∀ f ∈ report.failure, f.kind ∈ stageKinds
  building : ∀ f ∈ report.failure, f.kind = "build" →
    report.artifact = none ∧ report.arguments = none ∧ report.built = false
  loading : ∀ f ∈ report.failure, f.kind = "artifact_not_found" ∨ f.kind = "parse" →
    report.artifact ≠ none ∧ report.arguments = none
  writing : ∀ f ∈ report.failure, f.kind = "template" ∨ f.kind = "write" →
    report.artifact ≠ none ∧ report.arguments ≠ none
  built : report.built = true → steps.build = true ∧ c.build.enabled = true
  formatted : report.formatted = true →
    report.ok = true ∧ steps.format = true ∧ report.warnings = []
  warned : report.warnings ≠ [] →
    report.ok = true ∧ steps.format = true ∧ report.formatted = false
  warnings : report.warnings.length ≤ 1

theorem kind_artifact (e : Artifact.Error) :
    (Failure.artifact e).kind = "artifact_not_found" ∨ (Failure.artifact e).kind = "parse" := by
  cases e with
  | notFound => exact .inl rfl
  | _ => exact .inr rfl

theorem coherent_of_told (h : Told r c steps report) : Coherent c steps report := by
  cases h with
  | build reason => constructor <;> simp [Report.start, Failure.kind, stageKinds]
  | artifact hbuilt e =>
    constructor
    case built => exact hbuilt
    all_goals rcases kind_artifact e with hkind | hkind
    all_goals simp [loadingReport, Report.start, hkind, stageKinds]
  | template hbuilt abi e =>
    constructor
    case built => exact hbuilt
    all_goals simp [resolvedReport, loadingReport, Report.start, Failure.kind, stageKinds]
  | write hbuilt abi path e =>
    constructor
    case built => exact hbuilt
    all_goals simp [resolvedReport, loadingReport, Report.start, Failure.kind, stageKinds]
  | done hbuilt abi output hformat =>
    constructor
    case built => exact hbuilt
    all_goals cases hformat <;> simp_all [resolvedReport, loadingReport, Report.start]

/-- The parts of every report that a run ends with agree. -/
theorem coherent_of_run [Depths]
    (h : ((run r c steps : OnMachine (Except Crash Report)).run w).1 = .ok report) :
    Coherent c steps report :=
  coherent_of_told (told_of_run h)

/-- A contract that was built and has no artifact. -/
def missingRequest : Request := ⟨"src/V.sol", none, none⟩

def missingReport : Report :=
  { loadingReport missingRequest Config.default true with
    failure := some (.artifact (.notFound "out/V.sol/V.json")) }

theorem coherent_missingReport : ∃ _ : Depths,
    ((run missingRequest Config.default ⟨true, true⟩ :
        OnMachine (Except Crash Report)).run (.ofTree .empty [])).1 = .ok missingReport ∧
      Coherent Config.default ⟨true, true⟩ missingReport := by
  have hrun : ((@run OnMachine _ _ .ofThousand missingRequest Config.default ⟨true, true⟩).run
      (.ofTree .empty [])).1 = .ok missingReport := by
    decide +kernel
  let _ : Depths := .ofThousand
  exact ⟨.ofThousand, hrun, coherent_of_run hrun⟩

end Generate

end DeployScript
