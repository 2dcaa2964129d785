import DeployScript.Proofs.Config.Escape
import DeployScript.Proofs.Generate.Course

/-!
# What escapes a run

A run that fails says so in its report. `Escape` lists the inputs that stop it in another way, stage
by stage: a start that crashes, an artifact or a template that is not UTF-8 or that no file can have
the path of, JSON that reading gives up on, too many directories to be made, and a script that
cannot be written down.
-/

namespace DeployScript

namespace Generate

open Deployer (Script)

section

variable {r : Request} {c : Config} {steps : Steps} {s : Script} {w : Machine} {crash : Crash}
  [Depths]

/-- What stops the writing of a script in another way than by an error of the file system. -/
inductive WriteEscape (s : Script) (w : Machine) : Crash → Prop
  /-- No file can have the path of the directory. -/
  | directory {crash : Crash} (hparent : Action.badPath? s.path.parent = some crash) :
      WriteEscape s w crash
  /-- Too many of the directories above are missing. -/
  | depth (hparent : Action.badPath? s.path.parent = none)
      (hdepth : Action.OutOfReach w (Depths.directories + 1) s.path.parent) :
      WriteEscape s w .nestedTooDeeply
  /-- The directories are there, and no file can have the path of the script. -/
  | path {crash : Crash} {w' : Machine}
      (hdirs : (Action.makeDirectories s.path.parent).on w = (.ok (.ok ()), w'))
      (hpath : Action.badPath? s.path = some crash) : WriteEscape s w crash
  /-- The file is opened, and the script cannot be encoded. -/
  | content {w' : Machine} {t : FileTree}
      (hdirs : (Action.makeDirectories s.path.parent).on w = (.ok (.ok ()), w'))
      (hpath : Action.badPath? s.path = none) (hcontent : s.content.utf8? = none)
      (hwrite : w'.tree.write w'.directory s.path ByteArray.empty = .ok t) :
      WriteEscape s w .brokenText

theorem exists_writes_crash_iff :
    (∃ w', Writes s w (.error (.crash crash)) w') ↔ WriteEscape s w crash := by
  constructor
  · rintro ⟨w', h⟩
    cases h with
    | directoriesEnd hdirs =>
      have hcrash := congrArg Prod.fst hdirs
      rcases Action.on_makeDirectories_crash_iff.1 hcrash with hparent | ⟨hparent, rfl, hdepth⟩
      · exact .directory hparent
      · exact .depth hparent hdepth
    | badPath hdirs hpath => exact .path hdirs hpath
    | broken hdirs hpath hcontent hwrite => exact .content hdirs hpath hcontent hwrite
  · intro h
    have hmake := fun (hcrash : ((Action.makeDirectories s.path.parent).on w).1 =
        .error (.crash crash)) => Writes.directoriesEnd (Prod.ext hcrash rfl)
    cases h with
    | directory hparent => exact ⟨_, hmake (Action.on_makeDirectories_crash_iff.2 (.inl hparent))⟩
    | depth hparent hdepth =>
      exact ⟨_, hmake (Action.on_makeDirectories_crash_iff.2 (.inr ⟨hparent, rfl, hdepth⟩))⟩
    | path hdirs hpath => exact ⟨_, .badPath hdirs hpath⟩
    | content hdirs hpath hcontent hwrite => exact ⟨_, .broken hdirs hpath hcontent hwrite⟩

/-- What stops a run in another way than by a failure that its report tells. -/
inductive Escape (r : Request) (c : Config) (steps : Steps) (w : Machine) : Crash → Prop
  | build {fault : StartFault} (hwanted : steps.build = true)
      (hstart : Command.Crashes c.build [] w fault) : Escape r c steps w (.start fault)
  | artifact {built : Bool} {w₁ : Machine} {crash : Crash}
      (hbuild : (buildStage c steps.build).on w = (.ok built, w₁))
      (hload : Artifact.LoadCrash w₁.tree w₁.directory (r.artifactPath c.artifactsDir) crash) :
      Escape r c steps w crash
  | template {built : Bool} {abi : List Abi.Entry} {path : Text} {w₃ : Machine} {crash : Crash}
      (hloads : Loads r c steps.build w built abi w₃) (hpath : c.template? = some path)
      (hread : w₃.tree.TextCrash w₃.directory (.parse path) crash) : Escape r c steps w crash
  | write {built : Bool} {abi : List Abi.Entry} {template : Option String} {s : Script}
      {w₄ : Machine} {crash : Crash} (hprepares : Prepares r c steps.build w built abi template w₄)
      (hscript : scriptOf r c abi template = .ok s) (hwrite : WriteEscape s w₄ crash) :
      Escape r c steps w crash
  | format {built : Bool} {abi : List Abi.Entry} {template : Option String} {s : Script}
      {output : Path} {w₄ w' : Machine} {fault : StartFault}
      (hprepares : Prepares r c steps.build w built abi template w₄)
      (hscript : scriptOf r c abi template = .ok s) (hwrites : Writes s w₄ (.ok output) w')
      (hwanted : steps.format = true) (hstart : Command.Crashes c.format [output.text] w' fault) :
      Escape r c steps w (.start fault)

/-- A run crashes on what escapes it, and on nothing else. -/
theorem run_crash_iff :
    ((run r c steps : OnMachine (Except Crash Report)).run w).1 = .error crash ↔
      Escape r c steps w crash := by
  constructor
  · intro hrun
    rcases run_cases r c steps w with ⟨crash', report, w', h⟩ | ⟨f, report, w', h⟩ |
      ⟨report, w', h⟩
    · rw [run_of_crash h] at hrun
      cases hrun
      cases h with
      | build hbuild =>
        obtain ⟨hwanted, fault, rfl, hstart⟩ := on_buildStage_crash_iff.1 (congrArg Prod.fst hbuild)
        exact .build hwanted hstart
      | artifact hbuild hload =>
        rcases Artifact.on_load_cases _ (r.artifactPath c.artifactsDir) with ⟨_, hend, hcrash⟩ |
          ⟨_, hend⟩ | ⟨_, hend, -⟩ <;> rw [hload] at hend <;> cases hend
        exact .artifact hbuild hcrash
      | template hloads htemplate =>
        rcases on_templateStage_cases c _ with ⟨path, _, hend, hpath, hcrash⟩ | ⟨_, hend⟩ |
          ⟨_, hend, -⟩ <;> rw [htemplate] at hend <;> cases hend
        exact .template hloads hpath hcrash
      | write hprepares hscript hwrites =>
        exact .write hprepares hscript (exists_writes_crash_iff.1 ⟨_, hwrites⟩)
    · rw [run_of_failure h] at hrun
      cases hrun
    · cases h with
      | done hprepares hscript hwrites =>
        rw [run_of_done (.done hprepares hscript hwrites)] at hrun
        obtain ⟨hwanted, fault, rfl, hstart⟩ := (formatStage_crash_iff rfl).1 hrun
        exact .format hprepares hscript hwrites hwanted hstart
  · intro h
    cases h with
    | build hwanted hstart =>
      have hend := on_buildStage_crash_iff.2 ⟨hwanted, _, rfl, hstart⟩
      exact congrArg Prod.fst (run_of_crash (Course.build (Prod.ext hend rfl)))
    | format hprepares hscript hwrites hwanted hstart =>
      rw [run_of_done (.done hprepares hscript hwrites)]
      exact (formatStage_crash_iff rfl).2 ⟨hwanted, _, rfl, hstart⟩
    | @artifact built w₁ _ hbuild hload =>
      have hend : (Artifact.load (r.artifactPath c.artifactsDir)).on w₁ =
          (.error (.crash crash), ((Artifact.load (r.artifactPath c.artifactsDir)).on w₁).2) :=
        Prod.ext (Artifact.on_load_of_loadCrash hload) rfl
      exact congrArg Prod.fst (run_of_crash (Course.artifact hbuild hend))
    | template hloads hpath hread =>
      have hend := on_templateStage_of_textCrash hpath hread
      exact congrArg Prod.fst (run_of_crash (Course.template hloads hend))
    | write hprepares hscript hwrite =>
      obtain ⟨w', hwrites⟩ := exists_writes_crash_iff.2 hwrite
      exact congrArg Prod.fst (run_of_crash (Course.write hprepares hscript hwrites))

/-- A run gives a report exactly where nothing escapes it, and loading a configuration gives one or
fails with an error of its own exactly where nothing escapes it. -/
theorem run_and_load_return_iff (r : Request) (c : Config) (steps : Steps) (path : Option Path)
    (search : Bool) (w : Machine) :
    ((∃ report, ((run r c steps : OnMachine (Except Crash Report)).run w).1 = .ok report) ↔
        ∀ crash, ¬ Escape r c steps w crash) ∧
      (((∃ config, ((Config.load path search).on w).1 = .ok config) ∨
          ∃ e, ((Config.load path search).on w).1 = .error (.failure (.config e))) ↔
        ∀ crash, ¬ Config.Escape w path search crash) := by
  constructor
  · constructor
    · rintro ⟨report, hreport⟩ crash hescape
      rw [run_crash_iff.2 hescape] at hreport
      cases hreport
    · intro hnone
      cases hrun : ((run r c steps : OnMachine (Except Crash Report)).run w).1 with
      | ok report => exact ⟨report, rfl⟩
      | error crash => exact absurd (run_crash_iff.1 hrun) (hnone crash)
  · constructor
    · rintro (⟨config, hconfig⟩ | ⟨e, he⟩) crash hescape
      · rw [Config.on_load_of_escape hescape] at hconfig
        cases hconfig
      · rw [Config.on_load_of_escape hescape] at he
        cases he
    · intro hnone
      rcases Config.on_load_cases path search w with ⟨crash, -, hescape⟩ | ⟨e, he⟩ |
        ⟨config, hconfig⟩
      · exact absurd hescape (hnone crash)
      · exact .inr ⟨e, he⟩
      · exact .inl ⟨config, hconfig⟩

end

/-- An artifact and a configuration that are not UTF-8. -/
def garbledMachine : Machine :=
  .ofTree (.ofEntries [("out", .directory [("V.sol", .directory [("V.json", .file ⟨#[0xff]⟩)])]),
    ("deployer-kit.yml", .file ⟨#[0xff]⟩)]) []

theorem not_forall_run_and_load_return :
    (¬ ∀ [Depths] r c steps w, ∃ report,
        ((run r c steps : OnMachine (Except Crash Report)).run w).1 = .ok report) ∧
      ¬ ∀ [Depths] path search w,
        (∃ config, ((Config.load path search).on w).1 = .ok config) ∨
          ∃ e, ((Config.load path search).on w).1 = .error (.failure (.config e)) := by
  have hrun : ((@run OnMachine _ _ .ofThousand ⟨"src/V.sol", none, none⟩ Config.default
      ⟨false, false⟩).run garbledMachine).1 = .error .notUtf8 := by
    decide +kernel
  have hload : ((@Config.load OnMachine _ _ .ofThousand none true).on garbledMachine).1 =
      .error (.crash .notUtf8) := by
    decide +kernel
  constructor
  · intro h
    obtain ⟨report, hreport⟩ := @h .ofThousand ⟨"src/V.sol", none, none⟩ Config.default
      ⟨false, false⟩ garbledMachine
    rw [hrun] at hreport
    cases hreport
  · intro h
    rcases @h .ofThousand none true garbledMachine with ⟨config, hconfig⟩ | ⟨e, he⟩
    · rw [hload] at hconfig
      cases hconfig
    · rw [hload] at he
      cases he

end Generate

end DeployScript
