import DeployScript.Generate
import DeployScript.Proofs.Files.Texts
import DeployScript.Proofs.Host.Closed

/-!
# The stages that only read

All stages of a run but the writing one leave the files as they are. What they come to is told here:
building and formatting by the outcomes of the programs they start, loading by what the files hold.
-/

namespace DeployScript

/-! ### Commands -/

namespace Command

variable (w : Machine) (s : Start) (c : CommandConfig) (added : List Text) (directory : Option Path)
  (verb reason : String)

theorem enduring_run {R : Machine → Machine → Prop} (hR : Machine.Enduring R) :
    R w ((run s : OnMachine (Except Crash Receipt)).run w).2 := by
  rw [run]
  split
  · exact hR.refl w
  · exact hR.trans (hR.takeRecord w _) (hR.runProgram _ s)

theorem enduring_runConfigured {R : Machine → Machine → Prop} (hR : Machine.Enduring R) :
    R w ((runConfigured c added directory verb reason : OnMachine _).run w).2 := by
  rw [runConfigured]
  split
  · exact hR.trans (hR.takeRecord w _) (enduring_run _ _ hR)
  · exact hR.refl w

theorem run_fst :
    ((run s : OnMachine (Except Crash Receipt)).run w).1 =
      if s.argv.isEmpty then .ok (.failure [] "Empty command")
      else Receipt.ofOutcome s (w.outcomes.head?.getD .silent) := by
  rw [run]
  split
  · rfl
  · rw [← w.sameOutcomes_takeRecord]
    rfl

theorem outcomes_run :
    ((run s : OnMachine (Except Crash Receipt)).run w).2.outcomes =
      if s.argv.isEmpty then w.outcomes else w.outcomes.tail := by
  rw [run]
  split
  · rfl
  · rw [← w.sameOutcomes_takeRecord]
    rfl

variable {w} {u : Machine}

/-- What comes of a command depends on the outcomes that are left, and so do those left after it. -/
theorem runConfigured_of_outcomes (h : u.outcomes = w.outcomes) :
    ((runConfigured c added directory verb reason : OnMachine (Except Crash Receipt)).run u).1 =
        ((runConfigured c added directory verb reason : OnMachine (Except Crash Receipt)).run w).1 ∧
      ((runConfigured c added directory verb reason : OnMachine _).run u).2.outcomes =
        ((runConfigured c added directory verb reason : OnMachine _).run w).2.outcomes := by
  rw [runConfigured]
  split
  · let r : Log.Record := .info toolLogger (verb ++ ": " ++ line (c.command ++ added))
    let s : Start := ⟨c.command ++ added, directory, c.timeout.map .seconds⟩
    have hrecord : (u.takeRecord r).outcomes = (w.takeRecord r).outcomes := by
      rw [u.sameOutcomes_takeRecord, w.sameOutcomes_takeRecord, h]
    change ((run s : OnMachine (Except Crash Receipt)).run (u.takeRecord r)).1 =
        ((run s : OnMachine (Except Crash Receipt)).run (w.takeRecord r)).1 ∧
      ((run s : OnMachine (Except Crash Receipt)).run (u.takeRecord r)).2.outcomes =
        ((run s : OnMachine (Except Crash Receipt)).run (w.takeRecord r)).2.outcomes
    rw [run_fst, run_fst, outcomes_run, outcomes_run, hrecord]
    exact ⟨rfl, rfl⟩
  · exact ⟨rfl, h⟩

/-- Starting a configured command, with arguments added, crashes. -/
structure Crashes (c : CommandConfig) (added : List Text) (w : Machine) (fault : StartFault) :
    Prop where
  enabled : c.enabled = true
  argv : c.command ++ added ≠ []
  outcome : w.outcomes.head? = some (.crashed fault)

theorem ofOutcome_eq_error_iff {outcome : Outcome} {crash : Crash} :
    Receipt.ofOutcome s outcome = .error crash ↔
      ∃ fault, crash = .start fault ∧ outcome = .crashed fault := by
  cases outcome with
  | crashed fault => simp [Receipt.ofOutcome, eq_comm]
  | _ => simp [Receipt.ofOutcome]

/-- A configured command has a receipt unless its start crashes. -/
theorem runConfigured_eq_error_iff {crash : Crash} :
    ((runConfigured c added directory verb reason :
        OnMachine (Except Crash Receipt)).run w).1 = .error crash ↔
      ∃ fault, crash = .start fault ∧ Crashes c added w fault := by
  have houtcome : ∀ fault, w.outcomes.head?.getD .silent = .crashed fault ↔
      w.outcomes.head? = some (.crashed fault) := by
    intro fault
    cases w.outcomes.head? <;> simp [Outcome.silent]
  rw [runConfigured]
  split
  · next hon =>
    let r : Log.Record := .info toolLogger (verb ++ ": " ++ line (c.command ++ added))
    let s : Start := ⟨c.command ++ added, directory, c.timeout.map .seconds⟩
    change ((run s : OnMachine (Except Crash Receipt)).run (w.takeRecord r)).1 = _ ↔ _
    rw [run_fst, w.sameOutcomes_takeRecord]
    split
    · next hargv =>
      refine iff_of_false (by simp) ?_
      rintro ⟨-, -, -, hne, -⟩
      exact hne (List.isEmpty_iff.1 hargv)
    · next hargv =>
      simp only [ofOutcome_eq_error_iff, houtcome]
      refine exists_congr fun fault => and_congr_right fun _ => ?_
      exact ⟨fun h => ⟨hon, fun hnil => hargv (List.isEmpty_iff.2 hnil), h⟩, fun h => h.outcome⟩
  · next hoff =>
    refine iff_of_false ?_ ?_
    · intro hskip
      change Except.ok _ = Except.error crash at hskip
      cases hskip
    · rintro ⟨-, -, hon, -, -⟩
      exact hoff hon

end Command

/-! ### The interface and the template -/

namespace Artifact

variable [Depths]

/-- The artifact at a path can be read, and its interface has these entries. -/
def InterfaceAt (t : FileTree) (cwd : Standing) (p : Path) (entries : List Abi.Entry) : Prop :=
  ∃ text json, t.HasText cwd p text ∧ Json.read text = .ok json ∧
    interfaceOf p.text (.ofJson json) = .ok entries

/-- Loading an artifact crashes: its text cannot be read, or reading it as JSON gives up. -/
inductive LoadCrash (t : FileTree) (cwd : Standing) (p : Path) : Crash → Prop
  | text {c : Crash} (h : t.TextCrash cwd p c) : LoadCrash t cwd p c
  | longInteger {text : String} (htext : t.HasText cwd p text)
      (hread : Json.read text = .error .longInteger) : LoadCrash t cwd p .longInteger
  | nestedTooDeeply {text : String} (htext : t.HasText cwd p text)
      (hread : Json.read text = .error .nestedTooDeeply) : LoadCrash t cwd p .nestedTooDeeply

variable {w : Machine} {p : Path}

/-- What is closed for reading, with the failures of an artifact, holds of loading one. -/
theorem closed_load {allowed : Failure → Prop} {C : ∀ α : Type, Action OnMachine α → Prop}
    (hC : Action.ClosedForReading allowed C) (hallowed : ∀ e, allowed (.artifact e)) (p : Path) :
    C (List Abi.Entry) (load p) := by
  rw [load]
  apply hC.bind (hC.readText p)
  rintro (e | text)
  · apply hC.bind (hC.record _)
    intro _
    exact hC.fail (hallowed _)
  · dsimp only
    split
    · exact hC.fail (hallowed _)
    · exact hC.crash _
    · exact hC.crash _
    · split
      · exact hC.fail (hallowed _)
      · apply hC.bind (hC.record _)
        intro _
        exact hC.pure _

theorem keeps_load {R : Machine → Machine → Prop} (hR : Machine.Lasting R) (p : Path) :
    Action.Keeps R (load p) :=
  closed_load (Action.closedForReading_keeps hR) (fun _ => trivial) p

theorem on_load_of_loadCrash {c : Crash} (h : LoadCrash w.tree w.directory p c) :
    ((load p).on w).1 = .error (.crash c) := by
  cases h with
  | text h => rw [load, Action.on_bind_error (Action.on_readText_of_textCrash h)]
  | longInteger htext hread =>
    rw [load, Action.on_bind_ok (Action.on_readText_of_hasText htext)]
    simp only [hread, Action.on_crash]
  | nestedTooDeeply htext hread =>
    rw [load, Action.on_bind_ok (Action.on_readText_of_hasText htext)]
    simp only [hread, Action.on_crash]

theorem on_load_of_interfaceAt {entries : List Abi.Entry}
    (h : InterfaceAt w.tree w.directory p entries) : ((load p).on w).1 = .ok entries := by
  obtain ⟨text, json, htext, hread, hentries⟩ := h
  rw [load, Action.on_bind_ok (Action.on_readText_of_hasText htext)]
  simp only [hread, hentries]
  rfl

/-- Loading an artifact crashes, fails or comes to its interface. -/
theorem on_load_cases (w : Machine) (p : Path) :
    (∃ c, ((load p).on w).1 = .error (.crash c) ∧ LoadCrash w.tree w.directory p c) ∨
      (∃ f, ((load p).on w).1 = .error (.failure f)) ∨
        ∃ entries, ((load p).on w).1 = .ok entries ∧
          InterfaceAt w.tree w.directory p entries := by
  rcases Action.on_readText_cases w p with ⟨c, -, hcrash⟩ | ⟨e, hon⟩ | ⟨text, hon, htext⟩
  · exact .inl ⟨c, on_load_of_loadCrash (.text hcrash), .text hcrash⟩
  · refine .inr (.inl ⟨.artifact (.notFound p.text), ?_⟩)
    rw [load, Action.on_bind_ok hon]
    rfl
  · cases hread : Json.read text with
    | error e =>
      cases e with
      | malformed what place =>
        refine .inr (.inl ⟨.artifact (.invalidJson p.text what place), ?_⟩)
        rw [load, Action.on_bind_ok hon]
        simp only [hread, Action.on_fail]
      | longInteger =>
        have hcrash : LoadCrash w.tree w.directory p .longInteger := .longInteger htext hread
        exact .inl ⟨_, on_load_of_loadCrash hcrash, hcrash⟩
      | nestedTooDeeply =>
        have hcrash : LoadCrash w.tree w.directory p .nestedTooDeeply :=
          .nestedTooDeeply htext hread
        exact .inl ⟨_, on_load_of_loadCrash hcrash, hcrash⟩
    | ok json =>
      cases hentries : interfaceOf p.text (.ofJson json) with
      | error e =>
        refine .inr (.inl ⟨.artifact e, ?_⟩)
        rw [load, Action.on_bind_ok hon]
        simp only [hread, hentries, Action.on_fail]
      | ok entries =>
        have hthere : InterfaceAt w.tree w.directory p entries :=
          ⟨text, json, htext, hread, hentries⟩
        exact .inr (.inr ⟨entries, on_load_of_interfaceAt hthere, hthere⟩)

end Artifact

namespace Generate

variable {w u : Machine} {c : Config}

/-! ### Building and formatting -/

def builtOf : Except Crash Receipt → Except Abort Bool
  | .error crash => .error (.crash crash)
  | .ok receipt =>
    if receipt.isFailed then .error (.failure (.build (receipt.error.getD [])))
    else .ok receipt.isOk

theorem on_buildStage_true (c : Config) (w : Machine) :
    (buildStage c true).on w =
      (builtOf ((Command.build c.build none : OnMachine _).run w).1,
        ((Command.build c.build none : OnMachine (Except Crash Receipt)).run w).2) := by
  have hhost : (liftM (Command.build c.build none : OnMachine _) : Action OnMachine _).on w =
      (.ok ((Command.build c.build none : OnMachine (Except Crash Receipt)).run w).1,
        ((Command.build c.build none : OnMachine _).run w).2) := rfl
  rw [buildStage, if_pos rfl, Action.on_bind_ok hhost]
  rcases ((Command.build c.build none : OnMachine _).run w).1 with crash | receipt
  · rfl
  · dsimp only [builtOf]
    split <;> rfl

theorem on_buildStage_false (c : Config) (w : Machine) :
    (buildStage c false).on w = (.ok false, w) := rfl

theorem keeps_buildStage {R : Machine → Machine → Prop} (hR : Machine.Enduring R) (c : Config)
    (wanted : Bool) : Action.Keeps R (buildStage c wanted) := by
  intro w
  cases wanted with
  | false => exact hR.refl w
  | true =>
    rw [on_buildStage_true]
    exact Command.enduring_runConfigured w c.build [] none "Building" "build disabled" hR

theorem sameFiles_buildStage (c : Config) (wanted : Bool) (w : Machine) :
    w.SameFiles ((buildStage c wanted).on w).2 :=
  keeps_buildStage Machine.enduring_sameFiles c wanted w

theorem buildStage_of_outcomes (wanted : Bool) (h : u.outcomes = w.outcomes) :
    ((buildStage c wanted).on u).1 = ((buildStage c wanted).on w).1 ∧
      ((buildStage c wanted).on u).2.outcomes = ((buildStage c wanted).on w).2.outcomes := by
  cases wanted with
  | false => exact ⟨rfl, h⟩
  | true =>
    obtain ⟨hreceipt, houtcomes⟩ :=
      Command.runConfigured_of_outcomes c.build [] none "Building" "build disabled" h
    rw [← Command.build] at hreceipt houtcomes
    rw [on_buildStage_true, on_buildStage_true, hreceipt, houtcomes]
    exact ⟨rfl, rfl⟩

theorem run_formatStage_of_none {report : Report} (c : Config) (wanted : Bool) (w : Machine)
    (houtput : report.output = none) :
    (formatStage c wanted report : OnMachine (Except Crash Report)).run w = (.ok report, w) := by
  rw [formatStage, houtput]
  rfl

theorem run_formatStage_false (c : Config) (report : Report) (w : Machine) :
    (formatStage c false report : OnMachine (Except Crash Report)).run w = (.ok report, w) := by
  rw [formatStage]
  split <;> rfl

def toldReport (report : Report) (output : Path) (receipt : Receipt) : Report :=
  if receipt.isFailed then
    { report with warnings := report.warnings ++
        ["Formatter failed, " ++ output.text ++ " left unformatted: " ++ receipt.error.getD []] }
  else { report with formatted := receipt.isOk }

theorem run_tellFormatted_fst (report : Report) (output : Path) (receipt : Receipt) (w : Machine) :
    ((tellFormatted report output receipt : OnMachine Report).run w).1 =
      toldReport report output receipt := by
  rw [tellFormatted, toldReport]
  split <;> rfl

theorem lasting_tellFormatted {R : Machine → Machine → Prop} (hR : Machine.Lasting R)
    (report : Report) (output : Path) (receipt : Receipt) (w : Machine) :
    R w ((tellFormatted report output receipt : OnMachine Report).run w).2 := by
  rw [tellFormatted]
  split
  · exact hR.takeRecord w _
  · exact hR.refl w

/-- What formatting comes to, told by what came of the format command. -/
theorem run_formatStage_true_fst {report : Report} {output : Path} (c : Config) (w : Machine)
    (houtput : report.output = some output) :
    ((formatStage c true report : OnMachine (Except Crash Report)).run w).1 =
      ((Command.format c.format output none : OnMachine (Except Crash Receipt)).run w).1.map
        (toldReport report output) := by
  rw [formatStage, houtput]
  simp only [if_true]
  rw [StateT.run_bind]
  rcases (Command.format c.format output none : OnMachine _).run w with ⟨crash | receipt, w'⟩
  · rfl
  · exact congrArg Except.ok (run_tellFormatted_fst report output receipt w')

/-- What lasts from the format command on lasts to the end. -/
theorem lasting_formatStage_true {R : Machine → Machine → Prop} (hR : Machine.Lasting R)
    {report : Report} {output : Path} (c : Config) (w : Machine)
    (houtput : report.output = some output) :
    R ((Command.format c.format output none : OnMachine (Except Crash Receipt)).run w).2
      ((formatStage c true report : OnMachine (Except Crash Report)).run w).2 := by
  rw [formatStage, houtput]
  simp only [if_true]
  rw [StateT.run_bind]
  rcases (Command.format c.format output none : OnMachine _).run w with ⟨crash | receipt, w'⟩
  · exact hR.refl w'
  · exact lasting_tellFormatted hR report output receipt w'

theorem enduring_formatStage {R : Machine → Machine → Prop} (hR : Machine.Enduring R) (c : Config)
    (wanted : Bool) (report : Report) (w : Machine) :
    R w ((formatStage c wanted report : OnMachine (Except Crash Report)).run w).2 := by
  cases wanted with
  | false =>
    rw [run_formatStage_false]
    exact hR.refl w
  | true =>
    cases houtput : report.output with
    | none =>
      rw [run_formatStage_of_none c true w houtput]
      exact hR.refl w
    | some output =>
      have hcommand := Command.enduring_runConfigured w c.format [output.text] none "Formatting"
        "format disabled" hR
      exact hR.trans hcommand (lasting_formatStage_true hR.toLasting c w houtput)

theorem sameFiles_formatStage (c : Config) (wanted : Bool) (report : Report) (w : Machine) :
    w.SameFiles ((formatStage c wanted report : OnMachine (Except Crash Report)).run w).2 :=
  enduring_formatStage Machine.enduring_sameFiles c wanted report w

theorem formatStage_of_outcomes (wanted : Bool) (report : Report) (h : u.outcomes = w.outcomes) :
    ((formatStage c wanted report : OnMachine (Except Crash Report)).run u).1 =
      ((formatStage c wanted report : OnMachine (Except Crash Report)).run w).1 := by
  cases wanted with
  | false => rw [run_formatStage_false, run_formatStage_false]
  | true =>
    cases houtput : report.output with
    | none =>
      rw [run_formatStage_of_none c true u houtput, run_formatStage_of_none c true w houtput]
    | some output =>
      obtain ⟨hreceipt, -⟩ :=
        Command.runConfigured_of_outcomes c.format [output.text] none "Formatting"
          "format disabled" h
      rw [← Command.format] at hreceipt
      rw [run_formatStage_true_fst c u houtput, run_formatStage_true_fst c w houtput, hreceipt]

/-- Building crashes if its start does. -/
theorem on_buildStage_crash_iff {wanted : Bool} {crash : Crash} :
    ((buildStage c wanted).on w).1 = .error (.crash crash) ↔
      wanted = true ∧ ∃ fault, crash = .start fault ∧ Command.Crashes c.build [] w fault := by
  cases wanted with
  | false => simp [on_buildStage_false]
  | true =>
    have hcommand : ((Command.build c.build none : OnMachine _).run w).1 = .error crash ↔ _ :=
      Command.runConfigured_eq_error_iff c.build [] none "Building" "build disabled"
    rw [on_buildStage_true]
    simp only [true_and, ← hcommand]
    cases ((Command.build c.build none : OnMachine (Except Crash Receipt)).run w).1 with
    | error crash' => simp [builtOf]
    | ok receipt =>
      refine iff_of_false ?_ (by simp)
      rw [builtOf]
      split <;> simp

/-- Formatting crashes if its start does. -/
theorem formatStage_crash_iff {report : Report} {wanted : Bool} {output : Path} {crash : Crash}
    (houtput : report.output = some output) :
    ((formatStage c wanted report : OnMachine (Except Crash Report)).run w).1 = .error crash ↔
      wanted = true ∧ ∃ fault, crash = .start fault ∧
        Command.Crashes c.format [output.text] w fault := by
  cases wanted with
  | false => simp [run_formatStage_false]
  | true =>
    have hcommand : ((Command.format c.format output none : OnMachine _).run w).1 = .error crash ↔
        _ := Command.runConfigured_eq_error_iff c.format [output.text] none "Formatting"
      "format disabled"
    rw [run_formatStage_true_fst c w houtput]
    simp only [true_and, ← hcommand]
    cases ((Command.format c.format output none : OnMachine (Except Crash Receipt)).run w).1 with
    | error crash' => simp [Except.map]
    | ok receipt => simp [Except.map]

/-- Formatting crashes, or leaves the report as it is but for what it is there to tell. -/
theorem formatStage_report {report told : Report} {wanted : Bool}
    (h : ((formatStage c wanted report : OnMachine (Except Crash Report)).run w).1 = .ok told) :
    ∃ formatted warnings, told = { report with formatted, warnings } := by
  cases wanted with
  | false =>
    rw [run_formatStage_false] at h
    cases h
    exact ⟨_, _, rfl⟩
  | true =>
    by_cases hnone : report.output = none
    · rw [run_formatStage_of_none c true w hnone] at h
      cases h
      exact ⟨_, _, rfl⟩
    · obtain ⟨output, houtput⟩ := Option.ne_none_iff_exists'.1 hnone
      rw [run_formatStage_true_fst c w houtput] at h
      generalize ((Command.format c.format output none : OnMachine _).run w).1 = x at h
      cases x with
      | error crash => cases h
      | ok receipt =>
        cases h
        rw [toldReport]
        split
        · exact ⟨_, _, rfl⟩
        · exact ⟨_, _, rfl⟩

/-! ### Arguments and the template -/

theorem lasting_forM_record {R : Machine → Machine → Prop} (hR : Machine.Lasting R)
    (notices : List Abi.Notice) (w : Machine) :
    R w ((notices.forM fun notice => (Host.record notice.record : OnMachine Unit)).run w).2 := by
  induction notices generalizing w with
  | nil => exact hR.refl w
  | cons notice rest ih => exact hR.trans (hR.takeRecord w notice.record) (ih _)

theorem lasting_resolve {R : Machine → Machine → Prop} (hR : Machine.Lasting R)
    (abi : List Abi.Entry) (w : Machine) :
    R w ((resolve abi : OnMachine Abi.Arguments).run w).2 :=
  lasting_forM_record hR (Abi.notices abi) w

/-- The text of the template that the configuration names, if it names one. -/
inductive TemplateAt (t : FileTree) (cwd : Standing) (c : Config) : Option String → Prop
  | builtIn (h : c.template? = none) : TemplateAt t cwd c none
  | named {path : Text} {text : String} (h : c.template? = some path)
      (htext : t.HasText cwd (.parse path) text) : TemplateAt t cwd c (some text)

/-- What is closed for reading, with the failures of a template, holds of reading the one that the
configuration names. -/
theorem closed_templateStage {allowed : Failure → Prop}
    {C : ∀ α : Type, Action OnMachine α → Prop} (hC : Action.ClosedForReading allowed C)
    (hallowed : ∀ e, allowed (.template e)) (c : Config) :
    C (Option String) (templateStage c) := by
  rw [templateStage]
  split
  · apply hC.bind
    · rw [Template.load]
      apply hC.bind (hC.readText _)
      rintro (e | text)
      · exact hC.fail (hallowed _)
      · exact hC.pure _
    · intro text
      exact hC.pure _
  · exact hC.pure _

theorem keeps_templateStage {R : Machine → Machine → Prop} (hR : Machine.Lasting R) (c : Config) :
    Action.Keeps R (templateStage c) :=
  closed_templateStage (Action.closedForReading_keeps hR) (fun _ => trivial) c

theorem on_load_of_readText {path : Text} {x : Except FileError String} {w' : Machine}
    (h : (Action.readText (.parse path)).on w = (.ok x, w')) :
    ((Template.load path : Action OnMachine String)).on w =
      (match x with
        | .ok text => .ok text
        | .error e => .error (.failure (.template (.unreadable path e))), w') := by
  rw [Template.load, Action.on_bind_ok h]
  cases x <;> rfl

theorem on_templateStage_of_templateAt {template : Option String}
    (h : TemplateAt w.tree w.directory c template) :
    (templateStage c).on w = (.ok template, w) := by
  cases h with
  | builtIn h =>
    rw [templateStage, h]
    rfl
  | named h htext =>
    have hload := on_load_of_readText (Action.on_readText_of_hasText htext)
    rw [templateStage, h]
    exact Action.on_bind_ok hload

theorem on_templateStage_of_textCrash {path : Text} {crash : Crash} (h : c.template? = some path)
    (hcrash : w.tree.TextCrash w.directory (.parse path) crash) :
    (templateStage c).on w = (.error (.crash crash), w) := by
  have hload : (Template.load path : Action OnMachine String).on w = (.error (.crash crash), w) :=
    Action.on_bind_error (Action.on_readText_of_textCrash hcrash)
  rw [templateStage, h]
  exact Action.on_bind_error hload

/-- Reading the template crashes, fails or comes to its text. -/
theorem on_templateStage_cases (c : Config) (w : Machine) :
    (∃ path crash, (templateStage c).on w = (.error (.crash crash), w) ∧
        c.template? = some path ∧ w.tree.TextCrash w.directory (.parse path) crash) ∨
      (∃ f, (templateStage c).on w = (.error (.failure f), w)) ∨
        ∃ template, (templateStage c).on w = (.ok template, w) ∧
          TemplateAt w.tree w.directory c template := by
  cases hpath : c.template? with
  | none =>
    have hthere : TemplateAt w.tree w.directory c none := .builtIn hpath
    exact .inr (.inr ⟨none, on_templateStage_of_templateAt hthere, hthere⟩)
  | some path =>
    rcases Action.on_readText_cases w (.parse path) with ⟨crash, -, hcrash⟩ | ⟨e, hon⟩ |
      ⟨text, -, htext⟩
    · exact .inl ⟨path, crash, on_templateStage_of_textCrash hpath hcrash, rfl, hcrash⟩
    · refine .inr (.inl ⟨.template (.unreadable path e), ?_⟩)
      rw [templateStage, hpath]
      exact Action.on_bind_error (on_load_of_readText hon)
    · have hthere : TemplateAt w.tree w.directory c (some text) := .named hpath htext
      exact .inr (.inr ⟨some text, on_templateStage_of_templateAt hthere, hthere⟩)

end Generate

end DeployScript
