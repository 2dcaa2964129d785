import DeployScript.Proofs.CommandLine.Course
import DeployScript.Proofs.Generate.Report
import DeployScript.Proofs.Json.Reading

/-!
# Outcomes that a program can read

With `--json` a program should be able to read off standard output how a command ended: by one JSON
object that tells whether the script was generated, and if not, what kind of failure aborted it. The
report of a run is such an object, whatever names and paths are in it, and every failure of a stage
ends in a report. A configuration that cannot be loaded is the one failure that comes to no report:
it is told in words on standard error, and standard output stays empty.
-/

namespace DeployScript

/-! ### The report as JSON -/

namespace Report

/-- Arrays stand in the object that a report is, and no deeper. -/
def levels : Nat := 2

/-- What a report tells can be read back by whoever has room for its levels. -/
theorem readable_toJson (r : Report) {room : Nat} (hroom : levels ≤ room) :
    r.toJson.Readable room := by
  obtain ⟨more, rfl⟩ := Nat.exists_eq_add_of_le' hroom
  have htext : ∀ {room : Nat} (text : Option Text), (textOrNull text).Readable room := by
    intro room text
    cases text with
    | none => exact .null
    | some text => exact .string text
  have hnames : ∀ {room : Nat} (params : List Abi.Parameter),
      (names params).Readable (room + 1) := by
    intro room params
    refine .array ?_
    intro item hitem
    obtain ⟨p, -, rfl⟩ := List.mem_map.1 hitem
    exact .string _
  rw [toJson]
  refine .object ?_ ?_
  · rw [Json.memberNames_pairedMembers]
    simp only [Json.memberNames, List.map_cons, List.map_nil]
    decide
  · simp only [List.mem_cons, List.not_mem_nil, or_false, forall_eq_or_imp, forall_eq]
    refine ⟨.bool _, .string _, htext _, htext _, ?_, ?_, ?_, .bool _, .bool _, htext _, htext _,
      ?_⟩
    · cases r.arguments with
      | none => exact .null
      | some a => exact .bool _
    · cases r.arguments with
      | none => exact .array (by simp)
      | some a => exact hnames _
    · cases r.arguments.bind Abi.Arguments.init with
      | none => exact .null
      | some params => exact hnames _
    · refine .array ?_
      intro item hitem
      obtain ⟨warning, -, rfl⟩ := List.mem_map.1 hitem
      exact .string _

end Report

namespace CommandLine

open Generate (Course upToWriting)

/-- The text is one JSON object without repeated names, for every reader with room for the levels of
a report, and tells by `ok` whether anything failed and by `error_kind` what kind of failure it
was. -/
def Tells (text : String) (failure : Option Failure) : Prop :=
  ∃ members, (∀ room, Report.levels ≤ room → Json.readWithin room text = .ok (.object members)) ∧
    (Json.memberNames members).Nodup ∧
    (("ok" : Text), Json.bool failure.isNone) ∈ members ∧
      (("error_kind" : Text), Report.textOrNull (failure.map fun f => f.kind)) ∈ members

theorem paired_textOrNull_kind (failure : Option Failure) :
    (Report.textOrNull (failure.map fun f => f.kind)).paired =
      Report.textOrNull (failure.map fun f => f.kind) := by
  cases failure with
  | none => rfl
  | some f => exact congrArg Json.string (Text.paired_ofChars f.kind.toList)

theorem tells_render {r : Report} (hok : r.ok = r.failure.isNone) :
    Tells (r.toJson.render ++ "\n") r.failure := by
  have hread : ∀ room, Report.levels ≤ room →
      Json.readWithin room (r.toJson.render ++ "\n") = .ok r.toJson.paired := fun _ hroom =>
    Json.readWithin_render (r.readable_toJson hroom) (by simp [Json.isSpace])
  have hnames := r.readable_toJson le_rfl
  rw [Report.toJson] at hread hnames
  simp only [Json.paired] at hread
  cases hnames with
  | object hnames _ =>
    refine ⟨_, hread, hnames, ?_, ?_⟩
    · rw [Json.pairedMembers_eq_map, List.mem_map]
      refine ⟨("ok", .bool r.ok), List.mem_cons_self, ?_⟩
      rw [hok]
      rfl
    · rw [Json.pairedMembers_eq_map, List.mem_map]
      refine ⟨("error_kind", Report.textOrNull (r.failure.map fun f => f.kind)), by simp, ?_⟩
      rw [paired_textOrNull_kind]
      rfl

/-! ### What aborts an invocation -/

/-- The failure that something ended with, if it ended with one. -/
def failureOf {α : Type} : Except Abort α → Option Failure
  | .error (.failure f) => some f
  | _ => none

def configFailure [Depths] (i : Invocation) (w : Machine) : Option Failure :=
  failureOf ((loadConfig i).on w).1

/-- The failure that aborts an invocation, if one does: its configuration cannot be loaded, or a
stage of its run fails. -/
def abortedBy [Depths] (i : Invocation) (w : Machine) : Option Failure :=
  match (loadConfig i).on w with
  | (.error e, _) => failureOf (.error e : Except Abort Config)
  | (.ok c, w') =>
    failureOf ((upToWriting i.request c i.steps.build).on (.start i.request.contractName) w').1.1

variable {arguments : List String} {env : Environment} {i : Invocation} {w w' : Machine}
  {report : Report} {status : Nat}

/-- A report tells of the failure that aborted the invocation, and of none where none did. -/
theorem failure_of_work [Depths] (h : (work i).on w = (.ok report, w')) :
    report.ok = report.failure.isNone ∧ abortedBy i w = report.failure ∧
      configFailure i w = none := by
  rcases hload : (loadConfig i).on w with ⟨e | c, w₁⟩
  · rw [on_work_of_loadError hload] at h
    cases h
  have hconfig : configFailure i w = none := by
    rw [configFailure, hload]
    rfl
  rcases hrun : (Generate.run i.request c i.steps : OnMachine (Except Crash Report)).run w₁ with
    ⟨crash | report', w₂⟩ <;> rw [on_work_of_run hload hrun] at h <;> cases h
  have hok := (Generate.coherent_of_run (congrArg Prod.fst hrun)).ok_iff_failure
  refine ⟨by rwa [Bool.eq_iff_iff, Option.isNone_iff_eq_none], ?_, hconfig⟩
  rcases Generate.run_cases i.request c i.steps w₁ with ⟨crash, report₁, w₂, hcourse⟩ |
    ⟨f, report₁, w₂, hcourse⟩ | ⟨report₁, w₂, hcourse⟩
  · rw [Generate.run_of_crash hcourse] at hrun
    cases hrun
  · rw [Generate.run_of_failure hcourse] at hrun
    cases hrun
    simp only [abortedBy, hload, Generate.on_upToWriting_of_course hcourse]
    rfl
  · rw [Generate.run_of_done hcourse] at hrun
    obtain ⟨formatted, warnings, rfl⟩ := Generate.formatStage_report (congrArg Prod.fst hrun)
    rw [hok.1 rfl]
    simp only [abortedBy, hload, Generate.on_upToWriting_of_course hcourse]
    rfl

/-- The work fails without a report where the configuration cannot be loaded, and nowhere else. -/
theorem configFailure_of_work [Depths] {f : Failure}
    (h : (work i).on w = (.error (.failure f), w')) :
    configFailure i w = some f ∧ abortedBy i w = some f := by
  rcases hload : (loadConfig i).on w with ⟨e | c, w₁⟩
  · rw [on_work_of_loadError hload] at h
    cases h
    simp only [configFailure, abortedBy, hload]
    exact ⟨rfl, rfl⟩
  · rcases hrun : (Generate.run i.request c i.steps : OnMachine (Except Crash Report)).run w₁ with
      ⟨crash | report, w₂⟩ <;> rw [on_work_of_run hload hrun] at h <;> cases h

/-! ### What is on standard output -/

theorem not_tells_empty (failure : Option Failure) : ¬ Tells "" failure := by
  rintro ⟨members, hread, -⟩
  have hempty : (Json.readWithin Report.levels "").toOption = none := by decide
  rw [hread _ le_rfl] at hempty
  cases hempty

/-- A report that is shown as JSON can always be shown. -/
theorem run_of_jsonReport [Depths] (hasks : Asks arguments w (.generate i)) (hjson : i.json = true)
    (henv : env.nonEmpty? logFileVariable = none)
    (hwork : (work i).on (ready env i w) = (.ok report, w')) :
    (run arguments env : OnMachine (Except Crash Nat)).run w =
      (.ok (statusOf report),
        { w' with
          errors := w'.errors ++ reportErrors i report
          output := w'.output ++ (report.toJson.render ++ "\n") }) := by
  have htext : (reportOutput i report).string? = some (report.toJson.render ++ "\n") := by
    rw [reportOutput, if_pos hjson, ← Text.string?_ofString]
    simp [Text.ofString, Text.ofChars]
  rw [run_of_workReport hasks henv hwork, htext]

/-- With `--json`, a command that does not crash exits with zero if nothing aborted it and with one
otherwise, and what it prints tells which of them it was and by what failure, except if it was by a
configuration that cannot be loaded: then nothing is printed. -/
theorem tells_iff_of_json [Depths] (hasks : Asks arguments w (.generate i)) (hjson : i.json = true)
    (henv : env.nonEmpty? logFileVariable = none)
    (hrun : (run arguments env : OnMachine (Except Crash Nat)).run w = (.ok status, w')) :
    ∃ told, w'.output = w.output ++ told ∧
      (status = if (abortedBy i (ready env i w)).isNone then exitOk else exitError) ∧
        (Tells told (abortedBy i (ready env i w)) ↔ configFailure i (ready env i w) = none) ∧
          (configFailure i (ready env i w) ≠ none → told = "") := by
  have hprinted := keeps_work Machine.enduring_sameOutput (fun _ _ => rfl) i (ready env i w)
  rcases hwork : (work i).on (ready env i w) with ⟨(f | crash) | report, w₁⟩ <;>
    rw [hwork] at hprinted
  · obtain ⟨hconfig, haborted⟩ := configFailure_of_work hwork
    rw [run_of_workFailure hasks henv hwork] at hrun
    cases hrun
    refine ⟨"", ?_, ?_, ?_, fun _ => rfl⟩
    · exact hprinted.trans (String.append_empty).symm
    · rw [haborted]
      rfl
    · rw [hconfig]
      exact iff_of_false (not_tells_empty _) (by simp)
  · rw [run_of_workCrash hasks henv hwork] at hrun
    cases hrun
  · obtain ⟨hok, haborted, hconfig⟩ := failure_of_work hwork
    rw [run_of_jsonReport hasks hjson henv hwork] at hrun
    cases hrun
    refine ⟨report.toJson.render ++ "\n", ?_, ?_, ?_, fun h => absurd hconfig h⟩
    · exact congrArg (· ++ (report.toJson.render ++ "\n")) hprinted
    · rw [haborted, statusOf, hok]
    · rw [haborted, hconfig]
      exact iff_of_true (tells_render hok) rfl

/-- A contract in a directory without an artifact, to be told as JSON. -/
def jsonArguments : List String := ["src/V.sol", "--no-build", "--no-format", "--json"]

def jsonInvocation : Invocation :=
  ⟨⟨"src/V.sol", none, none⟩, none, ⟨false, false⟩, true, ⟨false, false, false⟩⟩

theorem tells_missing_artifact : ∃ _ : Depths,
    Asks jsonArguments (.ofTree .empty []) (.generate jsonInvocation) ∧
      ∃ w' told, (run jsonArguments .empty : OnMachine (Except Crash Nat)).run (.ofTree .empty []) =
          (.ok exitError, w') ∧
        w'.output = "" ++ told ∧ Tells told (some (.artifact (.notFound "out/V.sol/V.json"))) := by
  have hasks : Asks jsonArguments (.ofTree .empty []) (.generate jsonInvocation) := by
    decide +kernel
  have hreport : ((@work .ofThousand jsonInvocation).on
      (ready .empty jsonInvocation (.ofTree .empty []))).1.toOption.map Report.ok = some false := by
    decide +kernel
  have hconfig : @configFailure .ofThousand jsonInvocation
      (ready .empty jsonInvocation (.ofTree .empty [])) = none := by decide +kernel
  have haborted : @abortedBy .ofThousand jsonInvocation
      (ready .empty jsonInvocation (.ofTree .empty [])) =
        some (.artifact (.notFound "out/V.sol/V.json")) := by decide +kernel
  let _ : Depths := .ofThousand
  rcases hwork : (work jsonInvocation).on (ready .empty jsonInvocation (.ofTree .empty [])) with
    ⟨e | report, w₁⟩ <;> rw [hwork] at hreport
  · cases hreport
  have hrun := run_of_jsonReport hasks rfl rfl hwork
  obtain ⟨told, houtput, -, htells, -⟩ := tells_iff_of_json hasks rfl rfl hrun
  rw [haborted] at htells
  have hstatus : statusOf report = exitError := by
    rw [statusOf, Option.some.inj hreport]
    rfl
  exact ⟨.ofThousand, hasks, _, told, hstatus ▸ hrun, houtput, htells.2 hconfig⟩

/-- The same contract, with a configuration that is not there. -/
def missingConfigArguments : List String := ["src/V.sol", "--json", "--config", "missing.yml"]

/-- A configuration that is not there is not told as JSON. -/
theorem not_forall_tells_of_json :
    ¬ ∀ [Depths] (arguments : List String) (env : Environment) (i : Invocation) (w w' : Machine)
      (status : Nat), Asks arguments w (.generate i) → i.json = true →
        env.nonEmpty? logFileVariable = none →
          (run arguments env : OnMachine (Except Crash Nat)).run w = (.ok status, w') →
            ∃ told, w'.output = w.output ++ told ∧
              Tells told (abortedBy i (ready env i w)) ∧
                (status = exitOk ↔ abortedBy i (ready env i w) = none) := by
  intro h
  let i : Invocation :=
    ⟨⟨"src/V.sol", none, none⟩, some "missing.yml", ⟨true, true⟩, true, ⟨false, false, false⟩⟩
  have hasks : Asks missingConfigArguments (.ofTree .empty []) (.generate i) := by decide +kernel
  have hstatus : ((@run OnMachine _ _ .ofThousand missingConfigArguments .empty).run
      (.ofTree .empty [])).1 = .ok exitError := by decide +kernel
  have hempty : ((@run OnMachine _ _ .ofThousand missingConfigArguments .empty).run
      (.ofTree .empty [])).2.output = "" := by decide +kernel
  let _ : Depths := .ofThousand
  rcases hrun : (run missingConfigArguments .empty : OnMachine (Except Crash Nat)).run
    (.ofTree .empty []) with ⟨_, w'⟩
  rw [hrun] at hstatus hempty
  cases hstatus
  obtain ⟨text, houtput, htells, -⟩ :=
    h missingConfigArguments .empty i (.ofTree .empty []) w' exitError hasks rfl rfl hrun
  have htext : text = "" := by
    rw [hempty] at houtput
    exact (String.empty_append.symm.trans houtput.symm)
  rw [htext] at htells
  exact not_tells_empty _ htells

end CommandLine

end DeployScript
