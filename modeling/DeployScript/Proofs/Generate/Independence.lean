import DeployScript.Proofs.Generate.FileEffect
import DeployScript.Proofs.Host.Alike

/-!
# What programs have a part in

The programs that a run starts decide whether it builds, and what is told of building and
formatting; they have no part in anything else. Once nothing failed to build, the run is oblivious
to them: on machines that look alike it loads, renders and writes the same. What is written to a log
file is told by every record, though, and a formatter whose start crashes leaves no report.
-/

namespace DeployScript

/-- The report without what it tells of the programs that were started. -/
def Report.withoutPrograms (report : Report) : Report :=
  { report with built := false, formatted := false, warnings := [] }

namespace Generate

variable {α β : Type} {r : Request} {c : Config} {steps steps' : Steps} {w w' u u' : Machine}

/-! ### Running with reports beside -/

/-- What two runs come to is the same, their reports are but for what they tell of programs, and the
machines that they leave look alike. -/
structure Agree (first second : (Except Abort α × Report) × Machine) : Prop where
  result : second.1.1 = first.1.1
  report : second.1.2.withoutPrograms = first.1.2.withoutPrograms
  alike : first.2.Alike second.2

namespace Staged

/-- On machines that look alike, the part of a run ends in agreement. -/
structure Oblivious (x : Staged OnMachine α) : Prop where
  agree : ∀ {report report' : Report} {w u : Machine},
    report'.withoutPrograms = report.withoutPrograms → w.Alike u →
      Agree (x.on report w) (x.on report' u)

theorem oblivious_stage {a : Action OnMachine α} (ha : a.Oblivious) : Oblivious (stage a) := by
  constructor
  intro report report' w u hreport halike
  have hw := on_stage report (show a.on w = ((a.on w).1, (a.on w).2) from rfl)
  have hu := on_stage report' (show a.on u = ((a.on u).1, (a.on u).2) from rfl)
  rw [hw, hu]
  exact ⟨ha.result halike, hreport, ha.alike halike⟩

theorem oblivious_modify {change : Report → Report}
    (hchange : ∀ {report report' : Report},
      report'.withoutPrograms = report.withoutPrograms →
        (change report').withoutPrograms = (change report).withoutPrograms) :
    Oblivious (modify change : Staged OnMachine PUnit) := by
  constructor
  intro report report' w u hreport halike
  exact ⟨rfl, hchange hreport, halike⟩

theorem oblivious_bind {x : Staged OnMachine α} {f : α → Staged OnMachine β} (hx : Oblivious x)
    (hf : ∀ y, Oblivious (f y)) : Oblivious (x >>= f) := by
  constructor
  intro report report' w u hreport halike
  obtain ⟨hresult, hreport₁, halike₁⟩ := hx.agree hreport halike
  rcases hw : x.on report w with ⟨⟨result, report₁⟩, w₁⟩
  rcases hu : x.on report' u with ⟨⟨result', report₁'⟩, u₁⟩
  rw [hw, hu] at hresult hreport₁ halike₁
  cases hresult
  cases result with
  | error e =>
    rw [on_bind_error hw, on_bind_error hu]
    exact ⟨rfl, hreport₁, halike₁⟩
  | ok y =>
    rw [on_bind_ok hw, on_bind_ok hu]
    exact (hf y).agree hreport₁ halike₁

end Staged

/-! ### Loading, rendering and writing -/

theorem oblivious_resolve (abi : List Abi.Entry) :
    (liftM (resolve abi : OnMachine Abi.Arguments) : Action OnMachine _).Oblivious := by
  constructor
  · intro w u h
    rfl
  · intro w u h
    exact h.of_sameFiles (lasting_resolve Machine.lasting_sameFiles abi w)
      (lasting_resolve Machine.lasting_sameFiles abi u)

theorem oblivious_fromTemplate [Depths] (r : Request) (c : Config) (arguments : Abi.Arguments) :
    (fromTemplate r c arguments).Oblivious := by
  have hclosed := Action.closedForWriting_oblivious
  rw [fromTemplate]
  apply Staged.oblivious_bind
  · apply Staged.oblivious_stage
    exact closed_templateStage hclosed.toClosedForReading (fun _ => trivial) c
  · intro template
    split
    · exact Staged.oblivious_stage (Action.oblivious_fail _)
    · apply Staged.oblivious_bind
      · exact Staged.oblivious_stage (closed_write hclosed (fun _ _ => trivial) _)
      · intro output
        apply Staged.oblivious_modify
        intro report report' hreport
        exact congrArg (fun told : Report => { told with output := some output }) hreport

theorem oblivious_fromLoading [Depths] (r : Request) (c : Config) :
    (fromLoading r c).Oblivious := by
  have hclosed := Action.closedForWriting_oblivious
  rw [fromLoading]
  apply Staged.oblivious_bind
  · apply Staged.oblivious_stage
    exact Artifact.closed_load hclosed.toClosedForReading (fun _ => trivial) _
  · intro abi
    apply Staged.oblivious_bind (Staged.oblivious_stage (oblivious_resolve abi))
    intro arguments
    apply Staged.oblivious_bind
    · apply Staged.oblivious_modify
      intro report report' hreport
      exact congrArg (fun told : Report => { told with arguments := some arguments }) hreport
    · intro _
      exact oblivious_fromTemplate r c arguments

/-! ### Building -/

/-- The build is asked for, and has no receipt but that of a failed command. -/
def BuildFails (c : Config) (steps : Steps) (w : Machine) : Prop :=
  steps.build = true ∧ ∀ receipt,
    ((Command.build c.build none : OnMachine (Except Crash Receipt)).run w).1 = .ok receipt →
      receipt.isFailed = true

instance (c : Config) (steps : Steps) (w : Machine) : Decidable (BuildFails c steps w) :=
  match h : ((Command.build c.build none : OnMachine (Except Crash Receipt)).run w).1 with
  | .ok receipt =>
    decidable_of_iff (steps.build = true ∧ receipt.isFailed = true) (by simp [BuildFails, h])
  | .error _ => decidable_of_iff (steps.build = true) (by simp [BuildFails, h])

theorem exists_on_buildStage (h : ¬ BuildFails c steps w) :
    ∃ built w', (buildStage c steps.build).on w = (.ok built, w') ∧ w.SameFiles w' := by
  have hkept := sameFiles_buildStage c steps.build w
  cases hwanted : steps.build with
  | false => exact ⟨false, w, on_buildStage_false c w, .refl w⟩
  | true =>
    obtain ⟨receipt, hreceipt, hok⟩ : ∃ receipt,
        ((Command.build c.build none : OnMachine (Except Crash Receipt)).run w).1 = .ok receipt ∧
          ¬ receipt.isFailed = true := by
      by_contra hnone
      push Not at hnone
      exact h ⟨hwanted, hnone⟩
    rw [hwanted, on_buildStage_true] at hkept
    rw [on_buildStage_true, hreceipt, builtOf, if_neg hok]
    exact ⟨_, _, rfl, hkept⟩

/-- Runs in which no build fails agree on what they have come to when the script is written. -/
theorem agree_upToWriting [Depths] {build format : CommandConfig} (halike : w.Alike u)
    (hbuild : ¬ BuildFails c steps w)
    (hbuild' : ¬ BuildFails { c with build, format } steps' u) :
    Agree ((upToWriting r c steps.build).on (.start r.contractName) w)
      ((upToWriting r { c with build, format } steps'.build).on (.start r.contractName) u) := by
  obtain ⟨built, w₁, hw, hkept⟩ := exists_on_buildStage hbuild
  obtain ⟨built', u₁, hu, hkept'⟩ := exists_on_buildStage hbuild'
  rw [on_upToWriting_of_buildStage hw, on_upToWriting_of_buildStage hu]
  exact (oblivious_fromLoading r c).agree rfl (halike.of_sameFiles hkept hkept')

/-! ### The whole run -/

theorem withoutPrograms_formatStage {wanted : Bool} {report : Report}
    {result : Except Crash Report} {output : Path} (houtput : report.output = some output)
    (h : (formatStage c wanted report : OnMachine (Except Crash Report)).run w = (result, w'))
    (hcrash : ∀ fault, result ≠ .error (.start fault)) :
    result.map Report.withoutPrograms = .ok report.withoutPrograms := by
  cases result with
  | error crash =>
    obtain ⟨-, fault, rfl, -⟩ := (formatStage_crash_iff houtput).1 (congrArg Prod.fst h)
    exact absurd rfl (hcrash fault)
  | ok told =>
    obtain ⟨formatted, warnings, rfl⟩ := formatStage_report (congrArg Prod.fst h)
    rfl

/-- Two runs on the same files that differ in what they are asked to do besides generating, in the
commands for it and in what comes of these, end with the same files, unless a build fails or the log
goes to a file; and as long as no start crashes, with the same report but for what it tells of the
commands. -/
theorem run_independent [Depths] {build format : CommandConfig}
    {result result' : Except Crash Report}
    (htree : u.tree = w.tree) (hdirectory : u.directory = w.directory)
    (hlog : w.log.file = none) (hlog' : u.log.file = none)
    (hbuild : ¬ BuildFails c steps w)
    (hbuild' : ¬ BuildFails { c with build, format } steps' u)
    (hrun : (run r c steps : OnMachine (Except Crash Report)).run w = (result, w'))
    (hrun' : (run r { c with build, format } steps' : OnMachine (Except Crash Report)).run u =
      (result', u')) :
    u'.tree = w'.tree ∧ ((∀ fault, result ≠ .error (.start fault)) →
      (∀ fault, result' ≠ .error (.start fault)) →
        result'.map Report.withoutPrograms = result.map Report.withoutPrograms) := by
  have hagree := agree_upToWriting (r := r) ⟨htree, hdirectory, hlog, hlog'⟩ hbuild hbuild'
  obtain ⟨x, report, w₁, hcourse⟩ := exists_course r c steps.build w
  obtain ⟨x', report', u₁, hcourse'⟩ :=
    exists_course r { c with build, format } steps'.build u
  rw [on_upToWriting_of_course hcourse, on_upToWriting_of_course hcourse'] at hagree
  obtain ⟨hresult, hreport, halike⟩ := hagree
  cases hresult
  rcases x with (f | crash) | ⟨⟩
  · rw [run_of_failure hcourse] at hrun
    rw [run_of_failure hcourse'] at hrun'
    cases hrun
    cases hrun'
    constructor
    · exact (halike.of_sameFiles (w₁.sameFiles_takeRecord _) (u₁.sameFiles_takeRecord _)).tree
    · intro _ _
      exact congrArg (fun told : Report => Except.ok { told with failure := some f }) hreport
  · rw [run_of_crash hcourse] at hrun
    rw [run_of_crash hcourse'] at hrun'
    cases hrun
    cases hrun'
    exact ⟨halike.tree, fun _ _ => rfl⟩
  · have hfiles := sameFiles_formatStage c steps.format { report with ok := true } w₁
    have hfiles' := sameFiles_formatStage { c with build, format } steps'.format
      { report' with ok := true } u₁
    rw [run_of_done hcourse] at hrun
    rw [run_of_done hcourse'] at hrun'
    rw [hrun] at hfiles
    rw [hrun'] at hfiles'
    refine ⟨(halike.of_sameFiles hfiles hfiles').tree, ?_⟩
    intro hcrash hcrash'
    have houtput : ({ report with ok := true } : Report).output = some (target r c) :=
      hcourse.output_of_done
    have houtput' : ({ report' with ok := true } : Report).output = some (target r c) :=
      hcourse'.output_of_done
    rw [withoutPrograms_formatStage houtput hrun hcrash,
      withoutPrograms_formatStage houtput' hrun' hcrash']
    exact congrArg (fun told : Report => Except.ok { told with ok := true }) hreport

/-- The sources are built, and the formatter ends badly. -/
def unformattedMachine : Machine :=
  { plainMachine with outcomes := [.silent, .ended 1 "" "not formatted"] }

def makeConfig : Config :=
  { plainConfig with build := ⟨true, ["make"], none⟩, format := ⟨true, ["make", "fmt"], none⟩ }

@[irreducible] def makeRun (w : Machine) : Except Crash Report × Machine :=
  (@run OnMachine _ _ .ofThousand plainRequest makeConfig ⟨true, true⟩).run w

theorem run_eq_makeRun (w : Machine) :
    (@run OnMachine _ _ .ofThousand plainRequest makeConfig ⟨true, true⟩).run w = makeRun w := by
  rw [makeRun]

theorem ne_start_of_isOk {result : Except Crash Report} (h : result.isOk = true)
    (fault : StartFault) : result ≠ .error (.start fault) := by
  rintro rfl
  simp [Except.isOk, Except.toBool] at h

theorem run_independent_plain : ∃ _ : Depths,
    ¬ BuildFails plainConfig ⟨false, false⟩ plainMachine ∧
      ¬ BuildFails makeConfig ⟨true, true⟩ unformattedMachine ∧
        ((run plainRequest makeConfig ⟨true, true⟩ : OnMachine (Except Crash Report)).run
            unformattedMachine).2.tree =
          ((run plainRequest plainConfig ⟨false, false⟩ : OnMachine (Except Crash Report)).run
            plainMachine).2.tree ∧
        ((run plainRequest makeConfig ⟨true, true⟩ : OnMachine (Except Crash Report)).run
            unformattedMachine).1.map Report.withoutPrograms =
          ((run plainRequest plainConfig ⟨false, false⟩ : OnMachine (Except Crash Report)).run
            plainMachine).1.map Report.withoutPrograms := by
  have hbuild : ¬ BuildFails plainConfig ⟨false, false⟩ plainMachine := by decide +kernel
  have hbuild' : ¬ BuildFails makeConfig ⟨true, true⟩ unformattedMachine := by decide +kernel
  have htree : unformattedMachine.tree = plainMachine.tree := rfl
  have hdirectory : unformattedMachine.directory = plainMachine.directory := rfl
  have hended : (plainRun plainMachine).1.isOk = true := by decide +kernel
  have hended' : (makeRun unformattedMachine).1.isOk = true := by decide +kernel
  refine ⟨.ofThousand, hbuild, hbuild', ?_⟩
  rw [run_eq_makeRun, run_eq_plainRun]
  let _ : Depths := .ofThousand
  obtain ⟨hsame, hreports⟩ := run_independent htree hdirectory rfl rfl hbuild hbuild'
    (run_eq_plainRun plainMachine) (run_eq_makeRun unformattedMachine)
  exact ⟨hsame, hreports (ne_start_of_isOk hended) (ne_start_of_isOk hended')⟩

/-- Without a receipt for its formatter a run has no report. -/
def unreadMachine : Machine :=
  { plainMachine with outcomes := [.silent, .crashed .outputNotUtf8] }

/-- What is written to a log file tells runs apart, and so does a start that crashes. -/
theorem not_forall_run_independent :
    (¬ ∀ [Depths] (r : Request) (c c' : Config) (steps steps' : Steps) (w : Machine),
        c' = { c with build := c'.build, format := c'.format } →
        ¬ BuildFails c steps w → ¬ BuildFails c' steps' w →
      ((run r c' steps' : OnMachine (Except Crash Report)).run w).2.tree =
        ((run r c steps : OnMachine (Except Crash Report)).run w).2.tree) ∧
    ¬ ∀ [Depths] (r : Request) (c c' : Config) (steps steps' : Steps) (w u : Machine),
        c' = { c with build := c'.build, format := c'.format } →
        u = { w with outcomes := u.outcomes } → w.log.file = none →
        ¬ BuildFails c steps w → ¬ BuildFails c' steps' u →
      ((run r c' steps' : OnMachine (Except Crash Report)).run u).1.map Report.withoutPrograms =
        ((run r c steps : OnMachine (Except Crash Report)).run w).1.map Report.withoutPrograms := by
  constructor
  · intro hall
    have hbuild : ¬ BuildFails plainConfig ⟨false, false⟩ loggedMachine := by decide +kernel
    have hbuild' : ¬ BuildFails makeConfig ⟨true, true⟩ loggedMachine := by decide +kernel
    have hsame := @hall .ofThousand plainRequest plainConfig makeConfig ⟨false, false⟩ ⟨true, true⟩
      loggedMachine rfl hbuild hbuild'
    have hlog : (makeRun loggedMachine).2.tree.read (.on []) (.parse "run.log") ≠
        (plainRun loggedMachine).2.tree.read (.on []) (.parse "run.log") := by
      decide +kernel
    rw [run_eq_makeRun, run_eq_plainRun] at hsame
    rw [hsame] at hlog
    exact hlog rfl
  · intro hall
    have hbuild : ¬ BuildFails plainConfig ⟨false, false⟩ plainMachine := by decide +kernel
    have hbuild' : ¬ BuildFails makeConfig ⟨true, true⟩ unreadMachine := by decide +kernel
    have hsame := @hall .ofThousand plainRequest plainConfig makeConfig ⟨false, false⟩ ⟨true, true⟩
      plainMachine unreadMachine rfl rfl rfl hbuild hbuild'
    have hcrash : ((makeRun unreadMachine).1.map Report.withoutPrograms).isOk = false := by
      decide +kernel
    have hended : ((plainRun plainMachine).1.map Report.withoutPrograms).isOk = true := by
      decide +kernel
    rw [run_eq_makeRun, run_eq_plainRun] at hsame
    rw [← hsame] at hended
    exact absurd (hcrash.symm.trans hended) Bool.false_ne_true

end Generate

end DeployScript
