import DeployScript.Proofs.Files.Change
import DeployScript.Proofs.Generate.Course

/-!
# What a run does to the files

A run writes one file, its script, and makes the directories above it. A run that fails leaves every
regular file as it was and has made directories above the script at most; a run that gets through
leaves the script, made of what was on disk, and every other regular file as it was.
-/

namespace DeployScript

namespace Generate

open Deployer (Script)

variable {r : Request} {c : Config} {steps : Steps} {build built : Bool} {abi : List Abi.Entry}
  {template : Option String} {s : Script} {w w' : Machine}

/-- Where a run writes its script. -/
def target (r : Request) (c : Config) : Path :=
  Deployer.scriptPath (r.resolveOutputDir c.outputDir) r.contractName

theorem path_of_scriptOf (h : scriptOf r c abi template = .ok s) : s.path = target r c := by
  simp only [scriptOf, Deployer.script] at h
  split at h
  · simp at h
  · cases h
    rfl

theorem grounds_of_sameFiles (h : w.SameFiles w') (hlog : w.log.file = none)
    (hcwd : w.tree.Grounds w.directory) : w'.tree.Grounds w'.directory := by
  rw [h.tree hlog, h.setting.directory]
  exact hcwd

theorem sameFiles_of_buildStage {x : Except Abort Bool} (h : (buildStage c build).on w = (x, w')) :
    w.SameFiles w' := (keeps_buildStage Machine.enduring_sameFiles c build).of_on h

section

variable [Depths]

/-! ### The stages before writing -/

theorem Loads.sameFiles (h : Loads r c build w built abi w') : w.SameFiles w' :=
  h.enduring Machine.enduring_sameFiles

theorem Prepares.sameFiles (h : Prepares r c build w built abi template w') : w.SameFiles w' :=
  h.enduring Machine.enduring_sameFiles

/-- What a run has loaded is on disk. -/
theorem Prepares.onDisk (h : Prepares r c build w built abi template w')
    (hlog : w.log.file = none) :
    Artifact.InterfaceAt w.tree w.directory (r.artifactPath c.artifactsDir) abi ∧
      TemplateAt w.tree w.directory c template := by
  obtain ⟨w₃, hloads, htemplate⟩ := h
  have hfiles := hloads.sameFiles
  obtain ⟨w₁, w₂, hbuild, hload, rfl⟩ := hloads
  have hbuilt := sameFiles_of_buildStage hbuild
  constructor
  · rw [← hbuilt.tree hlog, ← hbuilt.setting.directory]
    rcases Artifact.on_load_cases w₁ (r.artifactPath c.artifactsDir) with ⟨_, hend, -⟩ |
      ⟨_, hend⟩ | ⟨entries, hend, hthere⟩ <;> rw [hload] at hend
    · simp at hend
    · simp at hend
    · cases hend
      exact hthere
  · rw [← hfiles.tree hlog, ← hfiles.setting.directory]
    rcases on_templateStage_cases c _ with ⟨_, _, hend, -⟩ | ⟨_, hend⟩ | ⟨template', hend, hthere⟩
    · rw [htemplate] at hend
      simp at hend
    · rw [htemplate] at hend
      simp at hend
    · rw [htemplate] at hend
      cases hend
      exact hthere

/-! ### Writing -/

/-- Writing a script makes directories, empties the file, or writes it. -/
theorem Writes.effect {result : Except Abort Path} (hcwd : w.tree.Grounds w.directory)
    (h : Writes s w result w') :
    (∃ t, w.tree.GrownAlong t w.directory s.path.parent ∧
        w' = { w with tree := t } ∧ ∀ output, result ≠ .ok output) ∨
      (∃ t t', w.tree.GrownAlong t w.directory s.path.parent ∧ s.content.utf8? = none ∧
        t.write w.directory s.path ByteArray.empty = .ok t' ∧
          w' = { w with tree := t' } ∧ result = .error (.crash .brokenText)) ∨
        ∃ t t' bytes record, w.tree.GrownAlong t w.directory s.path.parent ∧
          t.DirectoryAt w.directory s.path.parent ∧ s.content.utf8? = some bytes ∧
            t.write w.directory s.path bytes = .ok t' ∧
              w' = { w with tree := t' }.takeRecord record ∧ result = .ok s.path := by
  obtain ⟨made, t, hmade, hgrown, hthere⟩ := Action.on_makeDirectories hcwd s.path.parent
  cases h with
  | directoriesEnd hdirs =>
    rw [hmade] at hdirs
    cases hdirs
    exact .inl ⟨t, hgrown, rfl, by simp⟩
  | directoriesRefused hdirs =>
    rw [hmade] at hdirs
    cases hdirs
    exact .inl ⟨t, hgrown, rfl, by simp⟩
  | badPath hdirs hpath =>
    rw [hmade] at hdirs
    cases hdirs
    exact .inl ⟨t, hgrown, rfl, by simp⟩
  | refused hdirs hpath hwrite =>
    rw [hmade] at hdirs
    cases hdirs
    exact .inl ⟨t, hgrown, rfl, by simp⟩
  | broken hdirs hpath hcontent hwrite =>
    rw [hmade] at hdirs
    cases hdirs
    exact .inr (.inl ⟨t, _, hgrown, hcontent, hwrite, rfl, rfl⟩)
  | written hdirs hpath hcontent hwrite =>
    rw [hmade] at hdirs
    cases hdirs
    exact .inr (.inr ⟨t, _, _, _, hgrown, hthere rfl, hcontent, hwrite, rfl, rfl⟩)

/-! ### The whole run -/

/-- The script that a run makes of what is on disk: of the interface in the artifact and the text
of the template. -/
def ScriptOnDisk (r : Request) (c : Config) (t : FileTree) (cwd : Standing) (s : Script) : Prop :=
  ∃ abi template, Artifact.InterfaceAt t cwd (r.artifactPath c.artifactsDir) abi ∧
    TemplateAt t cwd c template ∧
      Deployer.script r (Abi.resolve abi) (r.resolveOutputDir c.outputDir) template = .ok s

theorem Prepares.scriptOnDisk (h : Prepares r c build w built abi template w')
    (hlog : w.log.file = none) (hscript : scriptOf r c abi template = .ok s) :
    ScriptOnDisk r c w.tree w.directory s := by
  obtain ⟨hinterface, htemplate⟩ := h.onDisk hlog
  exact ⟨abi, template, hinterface, htemplate, hscript⟩

theorem Course.sameSetting {result : Except Abort Unit} {report : Report}
    (h : Course r c build w result report w') : w.SameSetting w' :=
  h.enduring Machine.enduring_sameSetting fun _ _ => ⟨rfl, rfl⟩

/-- A run that ends early has made directories at most, or has emptied the file for a script that
cannot be encoded. -/
theorem Course.effect_of_error {e : Abort} {report : Report} (hcwd : w.tree.Grounds w.directory)
    (hlog : w.log.file = none) (h : Course r c build w (.error e) report w') :
    w.tree.GrownAlong w'.tree w.directory (target r c).parent ∨
      ∃ s t, ScriptOnDisk r c w.tree w.directory s ∧ s.content.utf8? = none ∧
        w.tree.GrownAlong t w.directory (target r c).parent ∧
          t.write w.directory (target r c) ByteArray.empty = .ok w'.tree ∧
            e = .crash .brokenText := by
  have hread := fun {w' : Machine} (hfiles : w.SameFiles w') =>
    FileTree.GrownAlong.of_eq (hfiles.tree hlog) w.directory (target r c).parent
  cases h with
  | build hbuild => exact .inl (hread (sameFiles_of_buildStage hbuild))
  | artifact hbuild hload =>
    exact .inl (hread ((sameFiles_of_buildStage hbuild).trans
      ((Artifact.keeps_load Machine.lasting_sameFiles _).of_on hload)))
  | template hloads htemplate =>
    exact .inl (hread (hloads.sameFiles.trans
      ((keeps_templateStage Machine.lasting_sameFiles c).of_on htemplate)))
  | script hprepares hscript => exact .inl (hread hprepares.sameFiles)
  | write hprepares hscript hwrites =>
    have hfiles := hprepares.sameFiles
    have heffect := hwrites.effect (grounds_of_sameFiles hfiles hlog hcwd)
    rw [path_of_scriptOf hscript, hfiles.tree hlog, hfiles.setting.directory] at heffect
    rcases heffect with ⟨t, hgrown, rfl, -⟩ | ⟨t, t', hgrown, hcontent, hwrite, rfl, hend⟩ |
      ⟨-, -, -, -, -, -, -, -, -, hend⟩
    · exact .inl hgrown
    · exact .inr ⟨_, t, hprepares.scriptOnDisk hlog hscript, hcontent, hgrown, hwrite,
        Except.error.inj hend⟩
    · simp at hend

/-- A run that gets through has made directories and written its script. -/
theorem Course.effect_of_done {report : Report} (hcwd : w.tree.Grounds w.directory)
    (hlog : w.log.file = none) (h : Course r c build w (.ok ()) report w') :
    ∃ s t bytes, ScriptOnDisk r c w.tree w.directory s ∧ s.content.utf8? = some bytes ∧
      w.tree.GrownAlong t w.directory (target r c).parent ∧
        t.DirectoryAt w.directory (target r c).parent ∧
          t.write w.directory (target r c) bytes = .ok w'.tree ∧
            report.output = some (target r c) := by
  cases h with
  | @done _ _ _ _ _ w₄ _ hprepares hscript hwrites =>
    have hfiles := hprepares.sameFiles
    have heffect := hwrites.effect (grounds_of_sameFiles hfiles hlog hcwd)
    rw [path_of_scriptOf hscript, hfiles.tree hlog, hfiles.setting.directory] at heffect
    rcases heffect with ⟨-, -, -, hend⟩ | ⟨-, -, -, -, -, -, hend⟩ |
      ⟨t, t', bytes, record, hgrown, hthere, hcontent, hwrite, rfl, hend⟩
    · exact absurd rfl (hend _)
    · simp at hend
    · cases hend
      have hlog' : w₄.log.file = none := by rw [hfiles.setting.log, hlog]
      have htold := (Machine.sameFiles_takeRecord
        { w₄ with tree := t', directory := w.directory } record).tree hlog'
      refine ⟨_, t, bytes, hprepares.scriptOnDisk hlog hscript, hcontent, hgrown, hthere, ?_, rfl⟩
      rw [htold]
      exact hwrite

theorem Course.output_of_done {report : Report} (h : Course r c build w (.ok ()) report w') :
    report.output = some (target r c) := by
  cases h with
  | done hprepares hscript hwrites =>
    cases hwrites with
    | written => rw [← path_of_scriptOf hscript]

/-- A report is not that of a run that got through as long as the run is going on. -/
theorem Course.ok_eq_false {result : Except Abort Unit} {report : Report}
    (h : Course r c build w result report w') : report.ok = false := by
  cases h <;> rfl

/-- The script made of what is on disk is in the file that a run reports, unless that is the null
device, and every other regular file is as it was. -/
def Generated (r : Request) (c : Config) (t : FileTree) (cwd : Standing) (output : Option Path)
    (t' : FileTree) : Prop :=
  ∃ s bytes place, ScriptOnDisk r c t cwd s ∧ s.content.utf8? = some bytes ∧
    output = some (Deployer.scriptPath (r.resolveOutputDir c.outputDir) r.contractName) ∧
      t'.locate cwd (target r c) = .ok place ∧
        (t.kindAt? place ≠ some .nullDevice → t'.kindAt? place = some (.file bytes)) ∧
          t.SameRegularFilesBut t' place.location

theorem Course.grownAlong_of_failure {f : Failure} {report : Report}
    (hcwd : w.tree.Grounds w.directory) (hlog : w.log.file = none)
    (h : Course r c build w (.error (.failure f)) report w') :
    w.tree.GrownAlong w'.tree w.directory (target r c).parent := by
  rcases h.effect_of_error hcwd hlog with hgrown | ⟨-, -, -, -, -, -, hend⟩
  · exact hgrown
  · simp at hend

theorem Course.files_of_crash {crash : Crash} {report : Report} (hcwd : w.tree.Grounds w.directory)
    (hlog : w.log.file = none) (h : Course r c build w (.error (.crash crash)) report w') :
    w.tree.NewDirectoriesAbove w'.tree w.directory (target r c) ∧
      (w.tree.SameRegularFiles w'.tree ∨
        crash = .brokenText ∧ ∃ s place, ScriptOnDisk r c w.tree w.directory s ∧
          s.content.utf8? = none ∧ w'.tree.locate w.directory (target r c) = .ok place ∧
            w.tree.SameRegularFilesBut w'.tree place.location) := by
  rcases h.effect_of_error hcwd hlog with hgrown | ⟨s, t, hscript, hcontent, hgrown, hwrite, hend⟩
  · exact ⟨hgrown.newDirectoriesAbove, .inl hgrown.sameRegularFiles⟩
  · obtain ⟨place, hplace⟩ := FileTree.writtenAt_of_write (hgrown.grounds hcwd) hwrite
    have hothers := hplace.sameRegularFilesBut hgrown
    exact ⟨hplace.newDirectoriesAbove hgrown.newDirectoriesAbove,
      .inr ⟨Abort.crash.inj hend, s, place, hscript, hcontent, hplace.located, hothers⟩⟩

theorem Course.generated {report : Report} (hcwd : w.tree.Grounds w.directory)
    (hlog : w.log.file = none) (h : Course r c build w (.ok ()) report w') :
    w.tree.NewDirectoriesAbove w'.tree w.directory (target r c) ∧
      Generated r c w.tree w.directory report.output w'.tree := by
  obtain ⟨s, t, bytes, hscript, hcontent, hgrown, -, hwrite, houtput⟩ :=
    h.effect_of_done hcwd hlog
  obtain ⟨place, hplace⟩ := FileTree.writtenAt_of_write (hgrown.grounds hcwd) hwrite
  refine ⟨hplace.newDirectoriesAbove hgrown.newDirectoriesAbove, s, bytes, place, hscript,
    hcontent, houtput, hplace.located, ?_, hplace.sameRegularFilesBut hgrown⟩
  intro hdevice
  refine hplace.file ?_
  rwa [ne_eq, hgrown.kindAt?_iff (by simp)]

/-- What a run does to the files, where none of them is a log file. It fails and leaves every
regular file as it was. Or it crashes and does so too, except that a script which cannot be encoded
leaves its own file empty, and that the script is there already if the start of the formatter
crashes. Or it gets through, and the script is generated. Any new directory is where a lexical
parent of the script's path leads. -/
theorem run_fileEffect {result : Except Crash Report} (hlog : w.log.file = none)
    (hcwd : w.tree.Grounds w.directory)
    (hrun : (run r c steps : OnMachine (Except Crash Report)).run w = (result, w')) :
    w.tree.NewDirectoriesAbove w'.tree w.directory (target r c) ∧
      (∀ report, result = .ok report → report.ok = false → w.tree.SameRegularFiles w'.tree) ∧
      (∀ crash, result = .error crash → w.tree.SameRegularFiles w'.tree ∨
        (crash = .brokenText ∧ ∃ s place, ScriptOnDisk r c w.tree w.directory s ∧
          s.content.utf8? = none ∧ w'.tree.locate w.directory (target r c) = .ok place ∧
            w.tree.SameRegularFilesBut w'.tree place.location) ∨
        ∃ fault, crash = .start fault ∧ steps.format = true ∧
          Generated r c w.tree w.directory (some (target r c)) w'.tree) ∧
      ∀ report, result = .ok report → report.ok = true →
        Generated r c w.tree w.directory report.output w'.tree := by
  rcases run_cases r c steps w with ⟨crash, report, w₁, h⟩ | ⟨f, report, w₁, h⟩ | ⟨report, w₁, h⟩
  · rw [run_of_crash h] at hrun
    cases hrun
    obtain ⟨hnew, hfiles⟩ := h.files_of_crash hcwd hlog
    refine ⟨hnew, by simp, ?_, by simp⟩
    intro crash' hcrash
    cases hcrash
    exact hfiles.imp_right .inl
  · have hlog' : w₁.log.file = none := by rw [(h.sameSetting).log, hlog]
    have hgrown := h.grownAlong_of_failure hcwd hlog
    rw [run_of_failure h] at hrun
    cases hrun
    rw [(Machine.sameFiles_takeRecord w₁ _).tree hlog']
    refine ⟨hgrown.newDirectoriesAbove, ?_, by simp, ?_⟩
    · intro report' _ _
      exact hgrown.sameRegularFiles
    · intro report' heq hok
      cases heq
      exact absurd (h.ok_eq_false.symm.trans hok) Bool.false_ne_true
  · have hlog' : w₁.log.file = none := by rw [(h.sameSetting).log, hlog]
    obtain ⟨hnew, hgenerated⟩ := h.generated hcwd hlog
    have hfiles := (sameFiles_formatStage c steps.format { report with ok := true } w₁).tree hlog'
    rw [run_of_done h] at hrun
    rw [hrun] at hfiles
    rw [hfiles]
    refine ⟨hnew, ?_, ?_, ?_⟩
    · rintro report' rfl hok
      obtain ⟨formatted, warnings, rfl⟩ := formatStage_report (congrArg Prod.fst hrun)
      cases hok
    · rintro crash rfl
      have houtput : ({ report with ok := true } : Report).output = some (target r c) :=
        h.output_of_done
      obtain ⟨hformat, fault, rfl, -⟩ :=
        (formatStage_crash_iff houtput).1 (congrArg Prod.fst hrun)
      rw [h.output_of_done] at hgenerated
      exact .inr (.inr ⟨fault, rfl, hformat, hgenerated⟩)
    · rintro report' rfl -
      obtain ⟨formatted, warnings, rfl⟩ := formatStage_report (congrArg Prod.fst hrun)
      exact hgenerated

end

/-- The artifact of a contract without entries, and a template that holds one letter. -/
def plainTree : FileTree :=
  .ofEntries [("out", .directory
      [("V.sol", .directory [("V.json", .file "\x7b\"abi\":[]\x7d".toUTF8)])]),
    ("template", .file "x".toUTF8)]

def plainMachine : Machine := .ofTree plainTree []

/-- The same files, with one that the log goes to. -/
def loggedMachine : Machine :=
  { plainMachine with log := ⟨.info, [Log.fileHandler .info (.parse "/run.log")]⟩ }

def plainRequest : Request := ⟨"V.sol", none, none⟩

/-- Scripts go two directories down, neither of which is there. -/
def plainConfig : Config :=
  { Config.default with outputDir := "script/deployers", template := some "template" }

@[irreducible] def plainRun (w : Machine) : Except Crash Report × Machine :=
  (@run OnMachine _ _ .ofThousand plainRequest plainConfig ⟨false, false⟩).run w

theorem run_eq_plainRun (w : Machine) :
    (@run OnMachine _ _ .ofThousand plainRequest plainConfig ⟨false, false⟩).run w =
      plainRun w := by
  rw [plainRun]

theorem exists_report_of_plainRun {w : Machine}
    (h : (plainRun w).1.toOption.map Report.ok = some true) :
    ∃ report, plainRun w = (.ok report, (plainRun w).2) ∧ report.ok = true := by
  rcases hrun : plainRun w with ⟨crash | report, w'⟩
  · simp [hrun, Except.toOption] at h
  · exact ⟨report, rfl, by simpa [hrun, Except.toOption] using h⟩

theorem exists_run_plain : ∃ report,
    plainRun plainMachine = (.ok report, (plainRun plainMachine).2) ∧ report.ok = true :=
  exists_report_of_plainRun (by decide +kernel)

theorem run_fileEffect_plain : ∃ _ : Depths,
    plainMachine.log.file = none ∧ plainTree.Grounds plainMachine.directory ∧
      ∃ report w', (run plainRequest plainConfig ⟨false, false⟩ :
          OnMachine (Except Crash Report)).run plainMachine = (.ok report, w') ∧
        Generated plainRequest plainConfig plainTree (.on []) report.output w'.tree := by
  have hlog : plainMachine.log.file = none := rfl
  have hcwd : plainTree.Grounds plainMachine.directory := FileTree.kind?_root plainTree
  obtain ⟨report, hrun, hok⟩ := exists_run_plain
  rw [← run_eq_plainRun] at hrun
  let _ : Depths := .ofThousand
  obtain ⟨-, -, -, hgenerated⟩ := run_fileEffect hlog hcwd hrun
  exact ⟨.ofThousand, hlog, hcwd, report, _, hrun, hgenerated report rfl hok⟩

/-- The formatter may take longer than can be waited for, and its start crashes. -/
def unwaitedConfig : Config :=
  { plainConfig with
    format := { plainConfig.format with timeout := Numeric.Binary64.ofInt? 10000000 } }

def unwaitedMachine : Machine := { plainMachine with outcomes := [.crashed .limitTooLong] }

@[irreducible] def unwaitedRun : Except Crash Report × Machine :=
  (@run OnMachine _ _ .ofThousand plainRequest unwaitedConfig ⟨false, true⟩).run unwaitedMachine

/-- A run that crashes can have written its script before. -/
theorem not_forall_sameRegularFiles :
    ¬ ∀ [Depths] (r : Request) (c : Config) (steps : Steps) (w w' : Machine) (crash : Crash),
      w.log.file = none → w.tree.Grounds w.directory →
      (run r c steps : OnMachine (Except Crash Report)).run w = (.error crash, w') →
      w.tree.SameRegularFiles w'.tree := by
  intro hall
  let place : Location := ["script", "deployers", "VDeployer.s.sol"]
  have hcrash : unwaitedRun.1 = .error (.start .limitTooLong) := by decide +kernel
  have hfile : (unwaitedRun.2.tree.node? place).any FileNode.isFile = true := by decide +kernel
  have hrun : (@run OnMachine _ _ .ofThousand plainRequest unwaitedConfig ⟨false, true⟩).run
      unwaitedMachine = (.error (.start .limitTooLong), unwaitedRun.2) := by
    rw [← unwaitedRun, ← hcrash]
  have hsame := @hall .ofThousand _ _ _ unwaitedMachine _ _ rfl
    (FileTree.kind?_root plainTree) hrun
  obtain ⟨bytes, hbytes⟩ := FileTree.exists_kind?_of_isFile hfile
  have hbefore : plainTree.kind? place = some (.file bytes) := (hsame place bytes).1 hbytes
  cases hbefore

end Generate

end DeployScript
