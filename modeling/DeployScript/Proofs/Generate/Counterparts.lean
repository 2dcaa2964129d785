import DeployScript.Proofs.Generate.Starts
import DeployScript.Proofs.Host.Beside

/-!
# Runs on machines beside each other

Two runs for one request, with configurations that differ in nothing but paths that are
counterparts, have the same effect on machines beside each other: they end alike, start the same to
build, start the formatter both or neither, and leave the machines beside each other. This is shown
stage by stage; the reports of the two runs differ in the paths they tell.
-/

namespace DeployScript

open FileTree (Counterpart Home)
open Machine (Beside)
open DeployScript.Action (EndsAlike Matches SameCause)

variable {cwd : Standing} {root : Path} {place : Location} {bytes : ByteArray} {p q : Path}

/-! ### Stages -/

namespace Artifact

theorem interfaceOf_congr (path path' : Text) (d : Document) :
    (∃ entries, interfaceOf path d = .ok entries ∧ interfaceOf path' d = .ok entries) ∨
      ∃ e e', interfaceOf path d = .error e ∧ interfaceOf path' d = .error e' ∧
        (Failure.artifact e').kind = (Failure.artifact e).kind := by
  rw [interfaceOf, interfaceOf]
  split
  · cases Abi.Entry.listOfArtifact d with
    | ok entries => exact .inl ⟨entries, rfl, rfl⟩
    | error issues => exact .inr ⟨_, _, rfl, rfl, rfl⟩
  · exact .inr ⟨_, _, rfl, rfl, rfl⟩

theorem matches_load [Depths] (hhome : Home cwd root) (h : Counterpart cwd root place p q) :
    Matches cwd place bytes Eq (load p) (load q) := by
  rw [load, load]
  apply (Action.matches_readText hhome h).bind
  intro x y hxy
  cases hxy with
  | error =>
    apply (Matches.record _ _).bind
    intro _ _ _
    exact .fail rfl
  | ok text =>
    dsimp only
    cases Json.read text with
    | error e =>
      cases e with
      | malformed what position => exact .fail rfl
      | longInteger => exact .crash _
      | nestedTooDeeply => exact .crash _
    | ok json =>
      dsimp only
      rcases interfaceOf_congr p.text q.text (.ofJson json) with
        ⟨entries, hp, hq⟩ | ⟨e, e', hp, hq, hkind⟩
      · rw [hp, hq]
        apply (Matches.record _ _).bind
        intro _ _ _
        exact .pure rfl
      · rw [hp, hq]
        exact .fail hkind

end Artifact

namespace Generate

variable {α β γ δ : Type} {r : Request} {c c' : Config} {steps : Steps} {build : Bool}
  {w u : Machine}

theorem matches_resolve (abi : List Abi.Entry) :
    Matches cwd place bytes Eq (liftM (resolve abi : OnMachine Abi.Arguments))
      (liftM (resolve abi : OnMachine Abi.Arguments)) :=
  .of_on fun {w u} hb => ⟨_, _, _, _, rfl, rfl, .ok rfl,
    hb.of_sameFiles (lasting_resolve Machine.lasting_sameFiles abi w)
      (lasting_resolve Machine.lasting_sameFiles abi u)⟩

theorem matches_write [Depths] {s s' : Deployer.Script} (hhome : Home cwd root)
    (hpath : Counterpart cwd root place s.path s'.path)
    (hparent : Counterpart cwd root place s.path.parent s'.path.parent)
    (hcontent : s'.content = s.content) :
    Matches cwd place bytes (fun _ _ => True) (write s) (write s') := by
  rw [write, write, hcontent]
  apply (Action.matches_makeDirectories hhome hparent).bind
  intro x y hxy
  cases hxy with
  | error => exact .fail rfl
  | ok =>
    apply (Action.matches_writeText hhome hpath s.content).bind
    intro x y hxy
    cases hxy with
    | error => exact .fail rfl
    | ok =>
      apply (Matches.record _ _).bind
      intro _ _ _
      exact .pure trivial

/-! ### Stages with a report beside -/

/-- Whatever the reports are, the parts of two runs end alike on machines beside each other, and
leave them so. -/
structure Staged.Matches (cwd : Standing) (place : Location) (bytes : ByteArray)
    (R : α → β → Prop) (x : Staged OnMachine α) (y : Staged OnMachine β) : Prop where
  ends : ∀ {w u} report report', Beside cwd place bytes w u →
    EndsAlike R (x.on report w).1.1 (y.on report' u).1.1
  beside : ∀ {w u} report report', Beside cwd place bytes w u →
    Beside cwd place bytes (x.on report w).2 (y.on report' u).2

namespace Staged.Matches

variable {R : α → β → Prop} {S : γ → δ → Prop}

theorem stage {a : Action OnMachine α} {b : Action OnMachine β}
    (h : Action.Matches cwd place bytes R a b) :
    Staged.Matches cwd place bytes R (Generate.stage a) (Generate.stage b) := by
  constructor
  · intro w u report report' hb
    rw [on_stage report (Prod.eta (a.on w)).symm, on_stage report' (Prod.eta (b.on u)).symm]
    exact h.ends hb
  · intro w u report report' hb
    rw [on_stage report (Prod.eta (a.on w)).symm, on_stage report' (Prod.eta (b.on u)).symm]
    exact h.beside hb

theorem modify (change change' : Report → Report) :
    Staged.Matches cwd place bytes (fun _ _ => True)
      (modify change : Staged OnMachine PUnit) (modify change' : Staged OnMachine PUnit) :=
  ⟨fun _ _ _ => .ok trivial, fun _ _ hb => hb⟩

theorem bind {x : Staged OnMachine α} {y : Staged OnMachine β} {f : α → Staged OnMachine γ}
    {g : β → Staged OnMachine δ} (h : Staged.Matches cwd place bytes R x y)
    (hnext : ∀ v v', R v v' → Staged.Matches cwd place bytes S (f v) (g v')) :
    Staged.Matches cwd place bytes S (x >>= f) (y >>= g) := by
  have hboth : ∀ {w u} report report', Beside cwd place bytes w u →
      EndsAlike S ((x >>= f).on report w).1.1 ((y >>= g).on report' u).1.1 ∧
        Beside cwd place bytes ((x >>= f).on report w).2 ((y >>= g).on report' u).2 := by
    intro w u report report' hb
    have hends := h.ends report report' hb
    have hbeside := h.beside report report' hb
    rcases hw : x.on report w with ⟨⟨end₁, report₁⟩, w₁⟩
    rcases hu : y.on report' u with ⟨⟨end₁', report₁'⟩, u₁⟩
    rw [hw, hu] at hends hbeside
    cases hends with
    | ok hvalue =>
      rw [on_bind_ok hw, on_bind_ok hu]
      have hf := hnext _ _ hvalue
      exact ⟨hf.ends _ _ hbeside, hf.beside _ _ hbeside⟩
    | failure hkind =>
      rw [on_bind_error hw, on_bind_error hu]
      exact ⟨.failure hkind, hbeside⟩
    | crash crash =>
      rw [on_bind_error hw, on_bind_error hu]
      exact ⟨.crash crash, hbeside⟩
  exact ⟨fun _ _ hb => (hboth _ _ hb).1, fun _ _ hb => (hboth _ _ hb).2⟩

end Staged.Matches

/-! ### Configurations that differ in paths -/

/-- For the request the configurations differ in nothing but paths that are counterparts, and name
no template. -/
structure CounterpartConfigs (cwd : Standing) (root : Path) (place : Location) (r : Request)
    (c c' : Config) : Prop where
  build : c'.build = c.build
  format : c'.format = c.format
  template : c.template? = none
  template' : c'.template? = none
  artifact : Counterpart cwd root place (r.artifactPath c.artifactsDir)
    (r.artifactPath c'.artifactsDir)
  script : Counterpart cwd root place (target r c) (target r c')
  directory : Counterpart cwd root place (target r c).parent (target r c').parent

theorem templateStage_of_none (h : c.template? = none) :
    (templateStage c : Action OnMachine (Option String)) = pure none := by
  rw [templateStage, h]

/-- The directory to write to decides where a script belongs, and nothing else. -/
theorem script_congr (r : Request) (a : Abi.Arguments) (dir dir' : Text)
    (template : Option String) :
    (∃ e, Deployer.script r a dir template = .error e ∧
        Deployer.script r a dir' template = .error e) ∨
      ∃ s s', Deployer.script r a dir template = .ok s ∧
        Deployer.script r a dir' template = .ok s' ∧
          s.path = Deployer.scriptPath dir r.contractName ∧
          s'.path = Deployer.scriptPath dir' r.contractName ∧ s'.content = s.content := by
  simp only [Deployer.script]
  cases Template.render (Deployer.features a) (fun hole => (Deployer.holeValues r a).lookup hole)
      (template.getD Deployer.builtInTemplate) with
  | error e => exact .inl ⟨e, rfl, rfl⟩
  | ok content => exact .inr ⟨_, _, rfl, rfl, rfl, rfl, rfl⟩

theorem matches_fromTemplate [Depths] (hhome : Home cwd root)
    (hc : CounterpartConfigs cwd root place r c c') (arguments : Abi.Arguments) :
    Staged.Matches cwd place bytes (fun _ _ => True) (fromTemplate r c arguments)
      (fromTemplate r c' arguments) := by
  rw [fromTemplate, fromTemplate, templateStage_of_none hc.template,
    templateStage_of_none hc.template']
  apply (Staged.Matches.stage (Action.Matches.pure (R := Eq) rfl)).bind
  rintro template _ rfl
  rcases script_congr r arguments (r.resolveOutputDir c.outputDir)
    (r.resolveOutputDir c'.outputDir) template with
    ⟨e, hs, hs'⟩ | ⟨s, s', hs, hs', hpath, hpath', hcontent⟩
  · rw [hs, hs']
    exact .stage (.fail rfl)
  · rw [hs, hs']
    have hscript := hc.script
    have hdirectory := hc.directory
    rw [target, target, ← hpath, ← hpath'] at hscript hdirectory
    apply (Staged.Matches.stage (matches_write hhome hscript hdirectory hcontent)).bind
    intro output output' _
    exact .modify _ _

theorem matches_fromLoading [Depths] (hhome : Home cwd root)
    (hc : CounterpartConfigs cwd root place r c c') :
    Staged.Matches cwd place bytes (fun _ _ => True) (fromLoading r c) (fromLoading r c') := by
  rw [fromLoading, fromLoading]
  apply (Staged.Matches.stage (Artifact.matches_load hhome hc.artifact)).bind
  rintro abi _ rfl
  apply (Staged.Matches.stage (matches_resolve abi)).bind
  rintro arguments _ rfl
  apply (Staged.Matches.modify _ _).bind
  intro _ _ _
  exact matches_fromTemplate hhome hc arguments

/-! ### The whole run -/

theorem buildStage_congr (h : c'.build = c.build) (wanted : Bool) :
    (buildStage c' wanted : Action OnMachine Bool) = buildStage c wanted := by
  rw [buildStage, buildStage, h]

/-- Up to the written script the runs end alike and leave the machines beside each other. -/
theorem matches_upToWriting [Depths] (build : Bool) (hhome : Home cwd root)
    (hc : CounterpartConfigs cwd root place r c c') (hb : Beside cwd place bytes w u)
    (houtcomes : u.outcomes = w.outcomes) :
    EndsAlike (fun _ _ => True) ((upToWriting r c build).on (.start r.contractName) w).1.1
        ((upToWriting r c' build).on (.start r.contractName) u).1.1 ∧
      Beside cwd place bytes ((upToWriting r c build).on (.start r.contractName) w).2
        ((upToWriting r c' build).on (.start r.contractName) u).2 := by
  obtain ⟨hresult, -⟩ := buildStage_of_outcomes (c := c) build houtcomes
  have hbuilt := hb.of_sameFiles (sameFiles_buildStage c build w) (sameFiles_buildStage c build u)
  rcases hw : (buildStage c build).on w with ⟨e | built, w₁⟩
  · rcases hu : (buildStage c build).on u with ⟨result, u₁⟩
    rw [hw, hu] at hresult hbuilt
    dsimp only at hresult
    subst hresult
    rw [← buildStage_congr hc.build] at hu
    rw [on_upToWriting_of_course (.build hw), on_upToWriting_of_course (.build hu)]
    refine ⟨?_, hbuilt⟩
    cases e with
    | failure f => exact .failure rfl
    | crash crash => exact .crash crash
  · rcases hu : (buildStage c build).on u with ⟨result, u₁⟩
    rw [hw, hu] at hresult hbuilt
    dsimp only at hresult
    subst hresult
    rw [← buildStage_congr hc.build] at hu
    rw [on_upToWriting_of_buildStage hw, on_upToWriting_of_buildStage hu]
    have hloading : Staged.Matches cwd place bytes _ (fromLoading r c) (fromLoading r c') :=
      matches_fromLoading hhome hc
    exact ⟨hloading.ends _ _ hbuilt, hloading.beside _ _ hbuilt⟩

theorem Course.failure_eq_none [Depths] {result : Except Abort Unit} {report : Report}
    {w' : Machine} (h : Course r c build w result report w') : report.failure = none := by
  cases h <;> rfl

/-- Formatting crashes in one run if it does in the other. -/
theorem formatStage_crash_congr {wanted : Bool} {report report' : Report} {output output' : Path}
    (hformat : c'.format = c.format) (houtput : report.output = some output)
    (houtput' : report'.output = some output') (houtcomes : u.outcomes = w.outcomes)
    (crash : Crash) :
    ((formatStage c' wanted report' : OnMachine (Except Crash Report)).run u).1 = .error crash ↔
      ((formatStage c wanted report : OnMachine (Except Crash Report)).run w).1 = .error crash := by
  have hcrashes : ∀ fault, Command.Crashes c'.format [output'.text] u fault ↔
      Command.Crashes c.format [output.text] w fault := by
    intro fault
    constructor
    · rintro ⟨hon, -, hcrash⟩
      exact ⟨hformat ▸ hon, by simp, houtcomes ▸ hcrash⟩
    · rintro ⟨hon, -, hcrash⟩
      exact ⟨hformat ▸ hon, by simp, houtcomes ▸ hcrash⟩
  simp only [formatStage_crash_iff houtput, formatStage_crash_iff houtput', hcrashes]

/-- Two reports tell the same success, or failures of one kind. -/
structure SameVerdict (report report' : Report) : Prop where
  ok : report'.ok = report.ok
  kind : report'.failure.map Failure.kind = report.failure.map Failure.kind

/-- Formatting ends alike in two runs that tell alike. -/
theorem endsAlike_formatStage {report report' : Report} {output output' : Path} (wanted : Bool)
    (hformat : c'.format = c.format) (houtput : report.output = some output)
    (houtput' : report'.output = some output') (houtcomes : u.outcomes = w.outcomes)
    (hverdict : SameVerdict report report') :
    EndsAlike SameVerdict
      (((formatStage c wanted report : OnMachine (Except Crash Report)).run w).1.mapError .crash)
      (((formatStage c' wanted report' : OnMachine _).run u).1.mapError .crash) := by
  have hcrash : ∀ crash,
      ((formatStage c' wanted report' : OnMachine (Except Crash Report)).run u).1 = .error crash ↔
        ((formatStage c wanted report : OnMachine _).run w).1 = .error crash :=
    formatStage_crash_congr hformat houtput houtput' houtcomes
  cases hw : ((formatStage c wanted report : OnMachine (Except Crash Report)).run w).1 with
  | error crash =>
    rw [(hcrash crash).2 hw]
    exact .crash crash
  | ok told =>
    cases hu : ((formatStage c' wanted report' : OnMachine (Except Crash Report)).run u).1 with
    | error crash =>
      rw [(hcrash crash).1 hu] at hw
      cases hw
    | ok told' =>
      obtain ⟨formatted, warnings, rfl⟩ := formatStage_report hw
      obtain ⟨formatted', warnings', rfl⟩ := formatStage_report hu
      exact .ok ⟨hverdict.ok, hverdict.kind⟩

/-- Runs that build by the same command leave the same outcomes, if there were the same before. -/
theorem Course.outcomes_congr [Depths] {result result' : Except Abort Unit}
    {report report' : Report} {w' u' : Machine} (h : Course r c build w result report w')
    (h' : Course r c' build u result' report' u') (hbuild : c'.build = c.build)
    (houtcomes : u.outcomes = w.outcomes) : u'.outcomes = w'.outcomes := by
  obtain ⟨-, hbuilt⟩ := buildStage_of_outcomes (c := c) build houtcomes
  calc u'.outcomes
    _ = ((buildStage c' build).on u).2.outcomes :=
      h'.lasting Machine.lasting_sameOutcomes fun _ _ => rfl
    _ = ((buildStage c build).on w).2.outcomes := by rw [buildStage_congr hbuild, hbuilt]
    _ = w'.outcomes := (h.lasting Machine.lasting_sameOutcomes fun _ _ => rfl).symm

/-- What two runs come to, and the machines they leave: they end alike, have started the same to
build and the formatter both or neither, and leave the machines beside each other. -/
structure SameEffect (cwd : Standing) (place : Location) (bytes : ByteArray) (r : Request)
    (c c' : Config) (steps : Steps) (before : List Start)
    (first second : Except Abort Report × Machine) : Prop where
  ends : EndsAlike SameVerdict first.1 second.1
  starts : ∃ written,
    first.2.starts = before ++ buildStarts c steps.build ++ formatStarts r c steps.format written ∧
      second.2.starts =
        before ++ buildStarts c steps.build ++ formatStarts r c' steps.format written
  beside : Beside cwd place bytes first.2 second.2

/-- Formatting has the same effect in two runs that tell alike and have started the same before. -/
theorem formatStage_sameEffect {before : List Start} {report report' : Report}
    {result result' : Except Crash Report} {w' u' : Machine}
    (hc : CounterpartConfigs cwd root place r c c') (hb : Beside cwd place bytes w u)
    (houtcomes : u.outcomes = w.outcomes) (hw : w.starts = before ++ buildStarts c steps.build)
    (hu : u.starts = before ++ buildStarts c steps.build) (hverdict : SameVerdict report report')
    (houtput : report.output = some (target r c))
    (houtput' : report'.output = some (target r c'))
    (h : (formatStage c steps.format report : OnMachine _).run w = (result, w'))
    (h' : (formatStage c' steps.format report' : OnMachine _).run u = (result', u')) :
    SameEffect cwd place bytes r c c' steps before (result.mapError .crash, w')
      (result'.mapError .crash, u') := by
  have hends := endsAlike_formatStage steps.format hc.format houtput houtput' houtcomes hverdict
  have hstarts := starts_formatStage report steps.format w houtput
  have hstarts' := starts_formatStage report' steps.format u houtput'
  have hfiles := sameFiles_formatStage c steps.format report w
  have hfiles' := sameFiles_formatStage c' steps.format report' u
  rw [h, h'] at hends
  rw [h] at hstarts hfiles
  rw [h'] at hstarts' hfiles'
  exact ⟨hends, ⟨true, by rw [← hw, hstarts], by rw [← hu, hstarts']⟩,
    hb.of_sameFiles hfiles hfiles'⟩

theorem run_sameEffect [Depths] {result result' : Except Crash Report} {w' u' : Machine}
    (hhome : Home cwd root) (hc : CounterpartConfigs cwd root place r c c')
    (hb : Beside cwd place bytes w u) (hprogress : w.SameProgress u)
    (hrun : (run r c steps : OnMachine (Except Crash Report)).run w = (result, w'))
    (hrun' : (run r c' steps : OnMachine (Except Crash Report)).run u = (result', u')) :
    SameEffect cwd place bytes r c c' steps w.starts (result.mapError .crash, w')
      (result'.mapError .crash, u') := by
  obtain ⟨result, report, w₁, hcourse⟩ := exists_course r c steps.build w
  obtain ⟨result', report', u₁, hcourse'⟩ := exists_course r c' steps.build u
  obtain ⟨hends, hbeside⟩ := matches_upToWriting steps.build hhome hc hb hprogress.outcomes
  rw [on_upToWriting_of_course hcourse, on_upToWriting_of_course hcourse'] at hends hbeside
  have hstarts := hcourse.starts
  have hstarts' := hcourse'.starts
  have hbuilds : buildStarts c' steps.build = buildStarts c steps.build := by
    rw [buildStarts, buildStarts, hc.build]
  rw [hbuilds, hprogress.starts] at hstarts'
  have hunformatted : ∀ c, formatStarts r c steps.format false = [] := fun c => by
    simp [formatStarts]
  cases hends with
  | ok =>
    have houtcomes := hcourse.outcomes_congr hcourse' hc.build hprogress.outcomes
    have hverdict : SameVerdict { report with ok := true } { report' with ok := true } :=
      ⟨rfl, congrArg (Option.map Failure.kind)
        (hcourse'.failure_eq_none.trans hcourse.failure_eq_none.symm)⟩
    rw [run_of_done hcourse] at hrun
    rw [run_of_done hcourse'] at hrun'
    exact formatStage_sameEffect hc hbeside houtcomes hstarts hstarts' hverdict
      hcourse.output_of_done hcourse'.output_of_done hrun hrun'
  | @failure f g hkind =>
    rw [run_of_failure hcourse] at hrun
    rw [run_of_failure hcourse'] at hrun'
    cases hrun
    cases hrun'
    refine ⟨.ok ⟨?_, congrArg some hkind⟩, ⟨false, ?_, ?_⟩, ?_⟩
    · exact hcourse'.ok_eq_false.trans hcourse.ok_eq_false.symm
    · rw [Machine.starts_takeRecord, hstarts, hunformatted, List.append_nil]
    · rw [Machine.starts_takeRecord, hstarts', hunformatted, List.append_nil]
    · exact hbeside.of_sameFiles (w₁.sameFiles_takeRecord _) (u₁.sameFiles_takeRecord _)
  | crash crash =>
    rw [run_of_crash hcourse] at hrun
    rw [run_of_crash hcourse'] at hrun'
    cases hrun
    cases hrun'
    refine ⟨.crash crash, ⟨false, ?_, ?_⟩, hbeside⟩
    · rw [hstarts, hunformatted, List.append_nil]
    · rw [hstarts', hunformatted, List.append_nil]

end Generate

end DeployScript
