import DeployScript.Proofs.Generate.FileEffect
import DeployScript.Proofs.Text.FileName

/-!
# Running again

A run that got through can be repeated: on the files that it left, with the same outcomes of the
programs that it starts, it tells the same and changes nothing. For nothing that the first run wrote
is read by the second: an artifact and a script never have the same name, and neither the artifact
nor the template is taken to be the script under a second name. Nor may the log go to a file.
-/

namespace DeployScript

namespace Generate

open Deployer (Script)

section

variable {r : Request} {c : Config} {steps : Steps} {build built : Bool} {abi : List Abi.Entry}
  {template : Option String} {s : Script} {w w' u : Machine}

/-! ### Artifacts and scripts -/

theorem nameBytes?_json :
    Text.nameBytes? (".json" : String) = some ([0x2e, 0x6a, 0x73, 0x6f] ++ [0x6e]) := by decide

theorem nameBytes?_scriptSuffix :
    Text.nameBytes? (Deployer.scriptSuffix : String) =
      some ([0x44, 0x65, 0x70, 0x6c, 0x6f, 0x79, 0x65, 0x72, 0x2e, 0x73, 0x2e, 0x73, 0x6f] ++
        [0x6c]) := by decide

/-- Where an artifact is no script is, whatever the directories and the contract are. -/
theorem artifact_ne_script {t t' : FileTree} {cwd p q : Standing}
    (hartifact : t.locate cwd (r.artifactPath c.artifactsDir) = .ok p)
    (hscript : t'.locate cwd (target r c) = .ok q) : p.location ≠ q.location := by
  obtain ⟨front, x, hparts⟩ := Path.parts_child_append
    ((Path.parse c.artifactsDir).child (r.stem ++ "." ++ r.extension)) r.contractName
    ".json" (by decide) (by decide)
  obtain ⟨front', x', hparts'⟩ := Path.parts_child_append
    (Path.parse (r.resolveOutputDir c.outputDir)) r.contractName
    Deployer.scriptSuffix (by decide) (by decide)
  obtain ⟨l, name, rfl, hname⟩ :=
    FileTree.exists_name_of_locate hparts (Path.append_ne_dots x (by decide)) hartifact
  obtain ⟨l', name', rfl, hname'⟩ :=
    FileTree.exists_name_of_locate hparts' (Path.append_ne_dots x' (by decide)) hscript
  have hne := Text.diskName?_ne nameBytes?_json nameBytes?_scriptSuffix (by decide) hname hname'
  intro heq
  exact hne (List.singleton_inj.1 (List.append_inj' heq rfl).2)

variable [Depths]

/-! ### The stages again -/

theorem Prepares.outcomes (h : Prepares r c build w built abi template w') :
    w'.outcomes = ((buildStage c build).on w).2.outcomes :=
  h.lasting Machine.lasting_sameOutcomes

theorem Prepares.buildStage_fst (h : Prepares r c build w built abi template w') :
    ((buildStage c build).on w).1 = .ok built := by
  obtain ⟨w₃, ⟨w₁, w₂, hbuild, -, -⟩, -⟩ := h
  rw [hbuild]

/-- A run prepares what is on disk once it has built. -/
theorem exists_prepares (hlog : u.log.file = none)
    (hbuild : ((buildStage c build).on u).1 = .ok built)
    (hinterface : Artifact.InterfaceAt u.tree u.directory (r.artifactPath c.artifactsDir) abi)
    (htemplate : TemplateAt u.tree u.directory c template) :
    ∃ u', Prepares r c build u built abi template u' := by
  obtain ⟨u₁, hon⟩ : ∃ u₁, (buildStage c build).on u = (.ok built, u₁) := ⟨_, Prod.ext hbuild rfl⟩
  have hbuilt := sameFiles_of_buildStage hon
  rw [← hbuilt.tree hlog, ← hbuilt.setting.directory] at hinterface
  obtain ⟨u₂, hload⟩ : ∃ u₂, (Artifact.load (r.artifactPath c.artifactsDir)).on u₁ =
      (.ok abi, u₂) := ⟨_, Prod.ext (Artifact.on_load_of_interfaceAt hinterface) rfl⟩
  have hloads : Loads r c build u built abi ((resolve abi : OnMachine Abi.Arguments).run u₂).2 :=
    ⟨u₁, u₂, hon, hload, rfl⟩
  have hfiles := hloads.sameFiles
  rw [← hfiles.tree hlog, ← hfiles.setting.directory] at htemplate
  exact ⟨_, _, hloads, on_templateStage_of_templateAt htemplate⟩

/-- A script that has been written is written again, and nothing changes. -/
theorem exists_writes_again {t t' : FileTree} {bytes : ByteArray} {place : Standing}
    (hpath : Action.badPath? s.path = none) (hparent : Action.badPath? s.path.parent = none)
    (hcontent : s.content.utf8? = some bytes) (hthere : t.DirectoryAt u.directory s.path.parent)
    (hplace : t.WrittenAt t' u.directory s.path bytes place) (htree : u.tree = t') :
    ∃ record, Writes s u (.ok s.path) (u.takeRecord record) := by
  have hthere' : u.tree.DirectoryAt u.directory s.path.parent := by
    rw [htree]
    exact hthere.kept fun l => (hplace.directories l).2
  have hdirs := Action.on_makeDirectories_of_directoryAt hparent hthere'
  have hwrite : u.tree.write u.directory s.path bytes = .ok u.tree := by
    rw [htree]
    exact hplace.write_again
  exact ⟨_, .written hdirs hpath hcontent hwrite⟩

/-- What the first writing of a script tells the second. -/
theorem Writes.written_cases {output : Path} (hcwd : w.tree.Grounds w.directory)
    (h : Writes s w (.ok output) w') :
    ∃ t t' bytes place record, w.tree.GrownAlong t w.directory s.path.parent ∧
      t.DirectoryAt w.directory s.path.parent ∧
        t.WrittenAt t' w.directory s.path bytes place ∧
          Action.badPath? s.path = none ∧ Action.badPath? s.path.parent = none ∧
            s.content.utf8? = some bytes ∧ w' = { w with tree := t' }.takeRecord record ∧
              output = s.path := by
  cases h with
  | written hdirs hpath hcontent hwrite =>
    have hparent : Action.badPath? s.path.parent = none := by
      cases hbad : Action.badPath? s.path.parent with
      | none => rfl
      | some crash =>
        have hcrash := (Action.on_makeDirectories_crash_iff (w := w)).2 (.inl hbad)
        rw [hdirs] at hcrash
        simp at hcrash
    obtain ⟨made, t, hmade, hgrown, hthere⟩ := Action.on_makeDirectories hcwd s.path.parent
    rw [hmade] at hdirs
    cases hdirs
    obtain ⟨place, hplace⟩ := FileTree.writtenAt_of_write (hgrown.grounds hcwd) hwrite
    exact ⟨t, _, _, place, _, hgrown, hthere rfl, hplace, hpath, hparent, hcontent, rfl, rfl⟩

/-! ### The run again -/

/-- The second run goes as the first did, up to the written script. -/
theorem Course.again {report : Report} (hlog : w.log.file = none)
    (hcwd : w.tree.Grounds w.directory) (h : Course r c build w (.ok ()) report w')
    (hartifact : ¬ w'.tree.LinkedAt w.directory (r.artifactPath c.artifactsDir) (target r c))
    (htemplate : ∀ path, c.template? = some path →
      ¬ w'.tree.SameFileAt w.directory (.parse path) (target r c))
    (hlog' : u.log.file = none) (htree : u.tree = w'.tree) (hdirectory : u.directory = w.directory)
    (houtcomes : u.outcomes = w.outcomes) :
    ∃ u', Course r c build u (.ok ()) report u' ∧ u.SameFiles u' ∧ u'.outcomes = w'.outcomes := by
  cases h with
  | @done built abi template s output w₄ _ hprepares hscript hwrites =>
    have hfiles := hprepares.sameFiles
    obtain ⟨t, t', bytes, place, record, hgrown, hthere, hplace, hpath, hparent, hcontent, rfl,
      rfl⟩ :=
      hwrites.written_cases (grounds_of_sameFiles hfiles hlog hcwd)
    have htold := (Machine.sameFiles_takeRecord { w₄ with tree := t' } record).tree
      (hfiles.setting.log ▸ hlog)
    rw [htold] at htree hartifact htemplate
    rw [hfiles.tree hlog, hfiles.setting.directory] at hgrown
    rw [hfiles.setting.directory] at hthere hplace
    have htarget := path_of_scriptOf hscript
    rw [← htarget] at htemplate
    obtain ⟨⟨text, json, htext, hjson, hentries⟩, hread⟩ := hprepares.onDisk hlog
    have hother : ¬ t'.SameFileAt w.directory (r.artifactPath c.artifactsDir) s.path := by
      rintro ⟨l, l', hl, hl', hsame⟩
      rw [htarget] at hl'
      exact hartifact ⟨l, l', hl, hl', artifact_ne_script hl hl', hsame⟩
    have hinterface :
        Artifact.InterfaceAt u.tree u.directory (r.artifactPath c.artifactsDir) abi := by
      rw [htree, hdirectory]
      exact ⟨text, json, htext.of_written hgrown hplace hother, hjson, hentries⟩
    have hread' : TemplateAt u.tree u.directory c template := by
      rw [htree, hdirectory]
      cases hread with
      | builtIn h => exact .builtIn h
      | named h htext => exact .named h (htext.of_written hgrown hplace (htemplate _ h))
    have hbuild := buildStage_of_outcomes (c := c) build houtcomes
    obtain ⟨u₄, hprepares'⟩ := exists_prepares hlog' (hbuild.1.trans hprepares.buildStage_fst)
      hinterface hread'
    have hfiles' := hprepares'.sameFiles
    have hdirectory' : u₄.directory = w.directory := by rw [hfiles'.setting.directory, hdirectory]
    rw [← hdirectory'] at hthere hplace
    obtain ⟨record', hwrites'⟩ := exists_writes_again hpath hparent hcontent hthere hplace
      ((hfiles'.tree hlog').trans htree)
    refine ⟨_, .done hprepares' hscript hwrites',
      hfiles'.trans (Machine.sameFiles_takeRecord _ _), ?_⟩
    rw [Machine.sameOutcomes_takeRecord, Machine.sameOutcomes_takeRecord, hprepares'.outcomes,
      hprepares.outcomes, hbuild.2]

/-- A run that got through without a log file can be repeated on the files that it left, as long as
the artifact is not the script under another name and the template is not the script under any: with
the same outcomes of the programs it starts, it tells the same and changes no file. -/
theorem run_again {report : Report} (hlog : w.log.file = none)
    (hcwd : w.tree.Grounds w.directory)
    (hrun : (run r c steps : OnMachine (Except Crash Report)).run w = (.ok report, w'))
    (hok : report.ok = true)
    (hartifact : ¬ w'.tree.LinkedAt w.directory (r.artifactPath c.artifactsDir) (target r c))
    (htemplate : ∀ path, c.template? = some path →
      ¬ w'.tree.SameFileAt w.directory (.parse path) (target r c))
    (hlog' : u.log.file = none) (htree : u.tree = w'.tree) (hdirectory : u.directory = w.directory)
    (houtcomes : u.outcomes = w.outcomes) :
    ∃ u', (run r c steps : OnMachine (Except Crash Report)).run u = (.ok report, u') ∧
      u'.tree = u.tree := by
  rcases run_cases r c steps w with ⟨crash, report₁, w₁, h⟩ | ⟨f, report₁, w₁, h⟩ |
    ⟨report₁, w₁, h⟩
  · rw [run_of_crash h] at hrun
    cases hrun
  · rw [run_of_failure h] at hrun
    cases hrun
    exact absurd (h.ok_eq_false.symm.trans hok) Bool.false_ne_true
  · have hlog₁ : w₁.log.file = none := by rw [(h.sameSetting).log, hlog]
    have hfiles := (sameFiles_formatStage c steps.format { report₁ with ok := true } w₁).tree hlog₁
    rw [run_of_done h] at hrun
    rw [hrun] at hfiles
    rw [hfiles] at htree hartifact htemplate
    obtain ⟨u₁, hagain, hkept, hsame⟩ :=
      h.again hlog hcwd hartifact htemplate hlog' htree hdirectory houtcomes
    have hlogu : u₁.log.file = none := by rw [hkept.setting.log, hlog']
    have hreport := formatStage_of_outcomes (c := c) steps.format { report₁ with ok := true } hsame
    have hkept' := (sameFiles_formatStage c steps.format { report₁ with ok := true } u₁).tree hlogu
    rw [hrun] at hreport
    refine ⟨_, ?_, hkept'.trans (hkept.tree hlog')⟩
    exact (run_of_done hagain).trans (Prod.ext hreport rfl)

end

def scriptPlace : Location := ["script", "deployers", "VDeployer.s.sol"]

theorem template_ne_of_locate {w : Machine}
    (h : w.tree.locate (.on []) (.parse "template") = .ok (.on ["template"]))
    (hscript : w.tree.locate (.on []) (target plainRequest plainConfig) = .ok (.on scriptPlace))
    (hother : ¬ w.tree.SameFile ["template"] scriptPlace) :
    ∀ path, plainConfig.template? = some path →
      ¬ w.tree.SameFileAt (.on []) (.parse path) (target plainRequest plainConfig) := by
  intro path hpath
  cases hpath
  rwa [FileTree.sameFileAt_iff h hscript]

theorem run_again_plain : ∃ _ : Depths, ∃ report w' u',
    (run plainRequest plainConfig ⟨false, false⟩ : OnMachine (Except Crash Report)).run
        plainMachine = (.ok report, w') ∧
      (run plainRequest plainConfig ⟨false, false⟩ : OnMachine (Except Crash Report)).run
          { plainMachine with tree := w'.tree } = (.ok report, u') ∧
        u'.tree = w'.tree := by
  obtain ⟨report, hplain, hok⟩ := exists_run_plain
  have hrun := (run_eq_plainRun plainMachine).trans hplain
  have hcwd : plainTree.Grounds plainMachine.directory := FileTree.kind?_root plainTree
  have hscript : (plainRun plainMachine).2.tree.locate (.on []) (target plainRequest plainConfig) =
      .ok (.on scriptPlace) := by decide +kernel
  have hartifact : ¬ (plainRun plainMachine).2.tree.LinkedAt (.on [])
      (plainRequest.artifactPath plainConfig.artifactsDir) (target plainRequest plainConfig) :=
    FileTree.not_linkedAt_of_number? hscript (by decide +kernel)
  have htemplate := template_ne_of_locate (w := (plainRun plainMachine).2) (by decide +kernel)
    hscript (by decide +kernel)
  let _ : Depths := .ofThousand
  obtain ⟨u', hagain, hsame⟩ := run_again
    (u := { plainMachine with tree := (plainRun plainMachine).2.tree }) rfl hcwd hrun hok hartifact
    htemplate rfl rfl rfl rfl
  exact ⟨.ofThousand, report, _, u', hrun, hagain, hsame⟩

/-- The run can be repeated on the files that it left, unless the template is the script. -/
def Repeatable [Depths] (r : Request) (c : Config) (steps : Steps) (w : Machine) : Prop :=
  ∀ report w', (run r c steps : OnMachine (Except Crash Report)).run w = (.ok report, w') →
    report.ok = true →
    (∀ path, c.template? = some path →
      ¬ w'.tree.SameFileAt w.directory (.parse path) (target r c)) →
    ∃ u', (run r c steps : OnMachine (Except Crash Report)).run { w with tree := w'.tree } =
      (.ok report, u') ∧ u'.tree = w'.tree

/-- The artifact of a contract without entries is where the script goes, too. -/
def linkedMachine : Machine :=
  .ofTree ⟨[("out", .directory [("V.sol", .directory [("V.json", .shared 0)])]),
    ("script", .directory [("deployers", .directory [("VDeployer.s.sol", .shared 0)])]),
    ("template", .file "x".toUTF8)], fun _ => "\x7b\"abi\":[]\x7d".toUTF8⟩ []

/-- A run cannot be repeated that writes to its artifact, by another name of that, or to a log
file. -/
theorem not_forall_repeatable :
    (¬ ∀ [Depths] r c steps w, w.tree.Grounds w.directory → w.log.file = none →
      Repeatable r c steps w) ∧
    ¬ ∀ [Depths] r c steps w, w.tree.Grounds w.directory →
      ¬ ((run r c steps : OnMachine (Except Crash Report)).run w).2.tree.LinkedAt w.directory
        (r.artifactPath c.artifactsDir) (target r c) →
      Repeatable r c steps w := by
  constructor
  · intro hall
    obtain ⟨report, hfirst, hok⟩ : ∃ report, plainRun linkedMachine =
        (.ok report, (plainRun linkedMachine).2) ∧ report.ok = true :=
      exists_report_of_plainRun (by decide +kernel)
    have htemplate := template_ne_of_locate (w := (plainRun linkedMachine).2) (by decide +kernel)
      (by decide +kernel) (by decide +kernel)
    obtain ⟨u', hagain, -⟩ := @hall .ofThousand _ _ _ linkedMachine
      (FileTree.kind?_root linkedMachine.tree) rfl report _
      ((run_eq_plainRun linkedMachine).trans hfirst) hok htemplate
    have hfailed : (plainRun { linkedMachine with
        tree := (plainRun linkedMachine).2.tree }).1.toOption.map Report.ok = some false := by
      decide +kernel
    rw [← run_eq_plainRun, hagain] at hfailed
    simp [Except.toOption, hok] at hfailed
  · intro hall
    obtain ⟨report, hfirst, hok⟩ : ∃ report, plainRun loggedMachine =
        (.ok report, (plainRun loggedMachine).2) ∧ report.ok = true :=
      exists_report_of_plainRun (by decide +kernel)
    have hrun := (run_eq_plainRun loggedMachine).trans hfirst
    have hscript : (plainRun loggedMachine).2.tree.locate (.on [])
        (target plainRequest plainConfig) = .ok (.on scriptPlace) := by decide +kernel
    have htemplate := template_ne_of_locate (w := (plainRun loggedMachine).2) (by decide +kernel)
      hscript (by decide +kernel)
    have hartifact : ¬ (plainRun loggedMachine).2.tree.LinkedAt (.on [])
        (plainRequest.artifactPath plainConfig.artifactsDir) (target plainRequest plainConfig) :=
      FileTree.not_linkedAt_of_number? hscript (by decide +kernel)
    obtain ⟨u', hagain, hsame⟩ := @hall .ofThousand _ _ _ loggedMachine
      (FileTree.kind?_root loggedMachine.tree) (by rw [hrun]; exact hartifact)
      report _ hrun hok htemplate
    have hlonger : (plainRun { loggedMachine with
        tree := (plainRun loggedMachine).2.tree }).2.tree.read (.on []) (.parse "run.log") ≠
          (plainRun loggedMachine).2.tree.read (.on []) (.parse "run.log") := by
      decide +kernel
    rw [← run_eq_plainRun { loggedMachine with tree := (plainRun loggedMachine).2.tree }, hagain,
      hsame] at hlonger
    exact hlonger rfl

end Generate

end DeployScript
