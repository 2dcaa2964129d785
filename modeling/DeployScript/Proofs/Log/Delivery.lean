import DeployScript.Log.Install
import DeployScript.Proofs.Files.Append

/-!
# Where records arrive

Setting up the log may be done again and again, and may fail half-way. Once it succeeds, its handler
for the console and the one for its log file are the only ones there are, and the threshold keeps
nothing from either: each is told the records from its own level on, once and in order.
-/

namespace DeployScript.Log

variable {settings : Settings} {env : Environment} {records : List Record}

/-! ### Levels -/

def consoleLevel (settings : Settings) : Level := .ofSetting settings.level

def logFile? (settings : Settings) (env : Environment) : Option String :=
  (settings.file.filter (· != "")) <|> env.nonEmpty? logFileVariable

/-- The level of the log file: that of the settings, or else of the environment, or else of the
console. -/
def fileLevel (settings : Settings) (env : Environment) : Level :=
  match (settings.fileLevel.filter (· != "")) <|> env.nonEmpty? logFileLevelVariable with
  | some name => .ofSetting (some name)
  | none => consoleLevel settings

def fromLevel (level : Level) (records : List Record) : List Record :=
  records.filter fun r => level ≤ r.level

theorem level_consoleHandler (level : Level) : (consoleHandler level).level = level := by
  unfold consoleHandler
  split
  · rfl
  · split <;> rfl

theorem sink_consoleHandler (level : Level) : (consoleHandler level).sink = .console := by
  unfold consoleHandler
  split
  · rfl
  · split <;> rfl

theorem make_eq (settings : Settings) (env : Environment) :
    Plan.make settings env = ⟨consoleHandler (consoleLevel settings),
      (logFile? settings env).map fun text => (fileLevel settings env, text)⟩ := rfl

/-! ### What a handler is told -/

/-- What a handler is told of records: each as often as the handler is among those that take it. -/
def State.told (s : State) (h : Handler) (records : List Record) : List Record :=
  records.flatMap fun r => List.replicate ((s.takers r).count h) r

/-- What a handler shows of records. -/
def Handler.shown (h : Handler) (stamp : Stamp) (records : List Record) : String :=
  String.join (records.map fun r => (h.line stamp r).shown)

/-- What a handler writes of records: a line that is a broken text is not written. -/
def Handler.written (h : Handler) (stamp : Stamp) (records : List Record) : String :=
  String.join (records.filterMap fun r => (h.line stamp r).string?)

theorem State.told_cons (s : State) (h : Handler) (r : Record) (rest : List Record) :
    s.told h (r :: rest) = s.told h [r] ++ s.told h rest := by
  simp [told]

theorem Handler.shown_append (h : Handler) (stamp : Stamp) (records more : List Record) :
    h.shown stamp (records ++ more) = h.shown stamp records ++ h.shown stamp more := by
  rw [shown, List.map_append, String.join_append]
  rfl

theorem Handler.written_append (h : Handler) (stamp : Stamp) (records more : List Record) :
    h.written stamp (records ++ more) = h.written stamp records ++ h.written stamp more := by
  rw [written, List.filterMap_append, String.join_append]
  rfl

theorem State.takers_eq (s : State) (r : Record) :
    s.takers r = s.handlers.filter fun h => s.passes r && h.takes r := by
  rw [takers]
  cases s.passes r <;> simp

/-- A handler that is not there is told nothing. -/
theorem State.told_of_not_mem {s : State} {h : Handler} (hmem : h ∉ s.handlers) :
    s.told h records = [] := by
  rw [told, List.flatMap_eq_nil_iff]
  intro r _
  have hnot : h ∉ s.takers r := fun htakes => hmem (mem_handlers_of_mem_takers htakes)
  rw [List.count_eq_zero_of_not_mem hnot, List.replicate_zero]

/-- A handler that is there once is told a record if it passes and the handler takes it. -/
theorem State.told_singleton {s : State} {h : Handler} (hone : s.handlers.count h = 1)
    (r : Record) : s.told h [r] = if s.passes r && h.takes r then [r] else [] := by
  rw [told, List.flatMap_singleton, takers_eq]
  split
  · next htaken =>
    have hcount : (s.handlers.filter fun h => s.passes r && h.takes r).count h = 1 :=
      (List.count_filter (p := fun h => s.passes r && h.takes r) htaken).trans hone
    rw [hcount]
    rfl
  · next hkept =>
    have hnot : h ∉ s.handlers.filter fun h => s.passes r && h.takes r :=
      fun hmem => hkept (List.mem_filter.1 hmem).2
    rw [List.count_eq_zero_of_not_mem hnot, List.replicate_zero]

/-- The threshold keeps no record from a handler with a level that is no lower. -/
theorem State.told_eq {s : State} {h : Handler} (hone : s.handlers.count h = 1)
    (hthreshold : s.threshold ≤ h.level) (hlevels : ∀ r ∈ records, 1 ≤ r.level) :
    s.told h records = fromLevel h.level records := by
  induction records with
  | nil => rfl
  | cons r rest ih =>
    rw [List.forall_mem_cons] at hlevels
    have htaken : (s.passes r && h.takes r) = decide (h.level ≤ r.level) := by
      have hpositive : 0 < r.level := hlevels.1
      rw [Bool.eq_iff_iff]
      simp only [State.passes, Handler.takes, Bool.and_eq_true, decide_eq_true_eq]
      constructor
      · intro htaken
        exact htaken.2
      · intro hlevel
        exact ⟨⟨hpositive, Nat.le_trans hthreshold hlevel⟩, hlevel⟩
    rw [told_cons, told_singleton hone, htaken, ih hlevels.2, fromLevel, fromLevel,
      List.filter_cons]
    split <;> rfl

end DeployScript.Log

namespace DeployScript.Machine

open Log (Record Handler)

variable {w : Machine} {records : List Record} {console file : Handler} {path : Path}

def takeRecords (w : Machine) (records : List Record) : Machine := records.foldl takeRecord w

/-- What holds as long as only the log is told something. -/
theorem Lasting.takeRecords {R : Machine → Machine → Prop} (hR : Lasting R) (w : Machine)
    (records : List Record) : R w (w.takeRecords records) := by
  induction records generalizing w with
  | nil => exact hR.refl w
  | cons r rest ih => exact hR.trans (hR.takeRecord w r) (ih _)

theorem takeRecords_cons (w : Machine) (r : Record) (rest : List Record) :
    w.takeRecords (r :: rest) = (w.takeRecord r).takeRecords rest := rfl

theorem log_takeRecord (w : Machine) (r : Record) : (w.takeRecord r).log = w.log :=
  (w.sameSetting_takeRecord r).log

theorem stamp_takeRecord (w : Machine) (r : Record) : (w.takeRecord r).stamp = w.stamp := by
  obtain ⟨tree, errors, heq⟩ := w.exists_takeRecord_eq r
  rw [heq]

/-- The log has one handler for the console, and all others are for files. -/
structure Consoled (w : Machine) (console : Handler) (files : List Handler) : Prop where
  handlers : w.log.handlers = console :: files
  console : console.sink = .console
  files : ∀ h ∈ files, ∃ path, h.sink = .file path

theorem Consoled.count_console {files : List Handler} (h : w.Consoled console files) :
    w.log.handlers.count console = 1 := by
  rw [h.handlers, List.count_cons_self, List.count_eq_zero_of_not_mem]
  intro hmem
  obtain ⟨path, hsink⟩ := h.files console hmem
  rw [h.console] at hsink
  cases hsink

/-! ### The console -/

/-- Handlers for files leave standard error alone. -/
theorem errors_foldl_handle (w : Machine) (r : Record) {handlers : List Handler}
    (h : ∀ h ∈ handlers, ∃ path, h.sink = .file path) :
    (handlers.foldl (handle r) w).errors = w.errors := by
  induction handlers generalizing w with
  | nil => rfl
  | cons first rest ih =>
    rw [List.forall_mem_cons] at h
    obtain ⟨path, hsink⟩ := h.1
    rw [List.foldl_cons, ih (w.handle r first) h.2, handle, hsink]
    dsimp only
    split
    · rfl
    · obtain ⟨tree, heq⟩ := w.exists_withTree_eq path
        (w.tree.append w.directory path (String.toUTF8 _))
      rw [heq]

theorem errors_takeRecord {files : List Handler} (h : w.Consoled console files) (r : Record) :
    (w.takeRecord r).errors = w.errors ++ console.shown w.stamp (w.log.told console [r]) := by
  have hfiles : ∀ f ∈ files.filter fun h => w.log.passes r && h.takes r, ∃ path,
      f.sink = .file path := fun f hf => h.files f (List.mem_filter.1 hf).1
  rw [takeRecord, Log.State.takers_eq, h.handlers, List.filter_cons,
    Log.State.told_singleton h.count_console]
  split
  · rw [List.foldl_cons, errors_foldl_handle _ r hfiles, handle, h.console]
    simp [Handler.shown]
  · rw [errors_foldl_handle _ r hfiles]
    exact (String.append_empty).symm

/-- The console shows what its handler is told. -/
theorem errors_takeRecords {files : List Handler} (h : w.Consoled console files)
    (records : List Record) :
    (w.takeRecords records).errors =
      w.errors ++ console.shown w.stamp (w.log.told console records) := by
  induction records generalizing w with
  | nil => exact (String.append_empty).symm
  | cons r rest ih =>
    have hlog := w.log_takeRecord r
    have hrest := ih (w := w.takeRecord r) ⟨by rw [hlog, h.handlers], h.console, h.files⟩
    rw [hlog, stamp_takeRecord, errors_takeRecord h] at hrest
    rw [takeRecords_cons, hrest, w.log.told_cons console r rest, Handler.shown_append,
      String.append_assoc]

/-! ### The log file -/

/-- The log has one handler for the console and one for a file. -/
structure LogsTo (w : Machine) (console file : Handler) (path : Path) : Prop where
  handlers : w.log.handlers = [console, file]
  console : console.sink = .console
  file : file.sink = .file path

theorem LogsTo.consoled (h : w.LogsTo console file path) : w.Consoled console [file] :=
  ⟨h.handlers, h.console, by simpa using ⟨path, h.file⟩⟩

theorem LogsTo.count_file (h : w.LogsTo console file path) : w.log.handlers.count file = 1 := by
  have hne : console ≠ file := by
    rintro rfl
    have hsink := h.console
    rw [h.file] at hsink
    cases hsink
  rw [h.handlers, List.count_cons_of_ne hne, List.count_singleton_self]

theorem appended_handle (hfile : file.sink = .file path) (habsolute : path.isAbsolute = true)
    (hopen : w.tree.TakesBytes (.on []) path) (r : Record) :
    w.tree.Appended (w.handle r file).tree (.on []) path (file.written w.stamp [r]).toUTF8 := by
  rw [handle, hfile, Handler.written, List.filterMap_cons]
  dsimp only
  cases (file.line w.stamp r).string? with
  | none =>
    -- A broken line is not written, but the record was told.
    exact hopen.appended_empty
  | some line =>
    obtain ⟨t, happend, happended⟩ := hopen.append line.toUTF8
    rw [FileTree.append_of_isAbsolute habsolute _ w.directory] at happend
    simp only [happend, List.filterMap_nil, String.join_cons, String.join_nil, String.append_empty]
    exact happended

/-- The handler for the console has no part in what is written to the file. -/
theorem LogsTo.exists_tree_takeRecord (h : w.LogsTo console file path) (r : Record) :
    ∃ u : Machine, u.tree = w.tree ∧ u.stamp = w.stamp ∧ (w.takeRecord r).tree =
      if w.log.passes r && file.takes r then (u.handle r file).tree else u.tree := by
  let taken : Handler → Bool := fun h => w.log.passes r && h.takes r
  let kept : Machine := { w with records := w.records ++ [r] }
  have hconsole : ∀ h ∈ [console].filter taken, h.sink = .console := by
    intro first hfirst
    rw [List.mem_singleton.1 (List.mem_filter.1 hfirst).1, h.console]
  obtain ⟨tree, errors, heq⟩ := kept.exists_foldl_handle_eq r ([console].filter taken)
  refine ⟨([console].filter taken).foldl (handle r) kept, tree_foldl_handle kept r hconsole, ?_, ?_⟩
  · rw [heq]
  · have hsplit : [console, file].filter taken = [console].filter taken ++ [file].filter taken :=
      List.filter_append [console] [file]
    rw [takeRecord, Log.State.takers_eq, h.handlers, hsplit, List.foldl_append]
    by_cases htaken : taken file = true
    · have hone : [file].filter taken = [file] := List.filter_cons_of_pos htaken
      rw [hone]
      exact (if_pos htaken).symm
    · have hnone : [file].filter taken = [] := List.filter_cons_of_neg htaken
      rw [hnone]
      exact (if_neg htaken).symm

theorem appended_takeRecord (h : w.LogsTo console file path) (habsolute : path.isAbsolute = true)
    (hopen : w.tree.TakesBytes (.on []) path) (r : Record) :
    w.tree.Appended (w.takeRecord r).tree (.on []) path
      (file.written w.stamp (w.log.told file [r])).toUTF8 := by
  obtain ⟨u, htree, hstamp, htaken⟩ := h.exists_tree_takeRecord r
  rw [htaken, Log.State.told_singleton h.count_file, ← hstamp, ← htree]
  rw [← htree] at hopen
  split
  · exact appended_handle h.file habsolute hopen r
  · exact hopen.appended_empty

/-- The log file holds what its handler is told, as far as that can be written. -/
theorem appended_takeRecords (h : w.LogsTo console file path) (habsolute : path.isAbsolute = true)
    (hopen : w.tree.TakesBytes (.on []) path) (records : List Record) :
    w.tree.Appended (w.takeRecords records).tree (.on []) path
      (file.written w.stamp (w.log.told file records)).toUTF8 := by
  induction records generalizing w with
  | nil => exact hopen.appended_empty
  | cons r rest ih =>
    have hlog := w.log_takeRecord r
    have hstep := appended_takeRecord h habsolute hopen r
    have hrest := ih (w := w.takeRecord r) ⟨by rw [hlog, h.handlers], h.console, h.file⟩
      hstep.takesBytes
    rw [hlog, stamp_takeRecord] at hrest
    rw [takeRecords_cons, w.log.told_cons file r rest, Handler.written_append]
    exact hstep.trans hrest

/-! ### What reaches the handlers -/

/-- The handler for the console is told the records from a level on, and shows each of them once and
in order. -/
def ConsoleTakes (w : Machine) (level : Log.Level) (records : List Record) : Prop :=
  w.log.told (Log.consoleHandler level) records = Log.fromLevel level records ∧
    (w.takeRecords records).errors =
      w.errors ++ (Log.consoleHandler level).shown w.stamp (Log.fromLevel level records)

/-- The handler for the file at the path is told the records from a level on. Each of them is
written once and in order at the end of the file, and all other files are as they were. -/
def FileTakes (w : Machine) (path : Path) (level : Log.Level) (records : List Record) : Prop :=
  w.log.told (Log.fileHandler level path) records = Log.fromLevel level records ∧
    w.tree.Appended (w.takeRecords records).tree (.on []) path
      ((Log.fileHandler level path).written w.stamp (Log.fromLevel level records)).toUTF8

end DeployScript.Machine

namespace DeployScript.Log

variable {settings : Settings} {env : Environment} {records : List Record} {w w' : Machine}

/-! ### Setting up the log -/

/-- Without a log file, setting up the log comes to its state alone. -/
theorem on_install (hfile : (Plan.make settings env).file = none) (w : Machine) :
    (install settings env : Action OnMachine Unit).on w =
      (.ok (), { w with log :=
        ⟨(Plan.make settings env).threshold, [(Plan.make settings env).console]⟩ }) := by
  rw [install]
  simp only [hfile]
  rfl

/-- Where a log file is asked for, it is opened after its path was made absolute. -/
theorem on_addFile {level : Level} {text : String}
    (h : (addFile level text : Action OnMachine Unit).on w = (.ok (), w')) :
    ∃ path tree, (Action.absolute (.parse text)).on w = (.ok path, w) ∧
      w.tree.append w.directory path ByteArray.empty = .ok tree ∧
        w' = { w with tree, log := w.log.add (fileHandler level path) } := by
  rw [addFile] at h
  obtain ⟨path, u, habsolute, h⟩ := Action.exists_of_on_bind_ok h
  rw [Action.on_absolute, Prod.mk.injEq] at habsolute
  obtain ⟨hpath, rfl⟩ := habsolute
  have habsolute : (Action.absolute (.parse text)).on w = (.ok path, w) := by
    rw [Action.on_absolute, ← hpath]
  obtain ⟨_, u, hcheck, h⟩ := Action.exists_of_on_bind_ok h
  rw [Action.checkPath] at hcheck
  split at hcheck <;> cases hcheck
  obtain ⟨opened, u, hopen, h⟩ := Action.exists_of_on_bind_ok h
  rw [Action.on_lift] at hopen
  change (Except.ok (w.withTree path (w.tree.append w.directory path ByteArray.empty)).1,
    (w.withTree path (w.tree.append w.directory path ByteArray.empty)).2) = _ at hopen
  cases happend : w.tree.append w.directory path ByteArray.empty with
  | error cause =>
    rw [happend] at hopen
    cases hopen
    cases h
  | ok tree =>
    rw [happend] at hopen
    cases hopen
    cases h
    exact ⟨path, tree, habsolute, happend, rfl⟩

/-- Where a log file is asked for, its handler comes behind the one for the console. -/
theorem on_install_of_file {text : String} (hfile : logFile? settings env = some text)
    (h : (install settings env : Action OnMachine Unit).on w = (.ok (), w')) :
    ∃ path tree, (Action.absolute (.parse text)).on w = (.ok path, w) ∧
      w.tree.append w.directory path ByteArray.empty = .ok tree ∧
        w' = { w with
          tree, log := ⟨(Plan.make settings env).threshold,
            [consoleHandler (consoleLevel settings),
              fileHandler (fileLevel settings env) path]⟩ } := by
  have hplan : (Plan.make settings env).file = some (fileLevel settings env, text) := by
    rw [make_eq, hfile]
    rfl
  rw [install] at h
  simp only [hplan] at h
  obtain ⟨_, u, hclear, h⟩ := Action.exists_of_on_bind_ok h
  cases hclear
  obtain ⟨_, u, hconsole, h⟩ := Action.exists_of_on_bind_ok h
  cases hconsole
  obtain ⟨_, u, hadd, h⟩ := Action.exists_of_on_bind_ok h
  obtain ⟨path, tree, habsolute, happend, rfl⟩ := on_addFile hadd
  cases h
  refine ⟨path, tree, ?_, happend, rfl⟩
  rw [Action.on_absolute, Prod.mk.injEq] at habsolute ⊢
  exact ⟨habsolute.1, rfl⟩

theorem isAbsolute_of_absolute {p path : Path} {u : Machine}
    (h : (Action.absolute p).on w = (.ok path, u)) : path.isAbsolute = true := by
  rw [Action.on_absolute, Prod.mk.injEq] at h
  obtain ⟨h, -⟩ := h
  split at h
  · cases h
    rfl
  · split at h <;> cases h
    rfl

theorem threshold_le_consoleLevel (settings : Settings) (env : Environment) :
    (Plan.make settings env).threshold ≤ consoleLevel settings := by
  have hlevel := level_consoleHandler (consoleLevel settings)
  rw [make_eq, Plan.threshold]
  cases logFile? settings env with
  | none => exact Nat.le_of_eq hlevel
  | some text => exact (Nat.min_le_left _ _).trans (Nat.le_of_eq hlevel)

theorem threshold_le_fileLevel {text : String} (hfile : logFile? settings env = some text) :
    (Plan.make settings env).threshold ≤ fileLevel settings env := by
  rw [make_eq, hfile]
  exact Nat.min_le_right _ _

theorem consoleTakes_of_consoled {files : List Handler}
    (h : w.Consoled (consoleHandler (consoleLevel settings)) files)
    (hthreshold : w.log.threshold = (Plan.make settings env).threshold)
    (hlevels : ∀ r ∈ records, 1 ≤ r.level) : w.ConsoleTakes (consoleLevel settings) records := by
  have hlevel := level_consoleHandler (consoleLevel settings)
  have hle : w.log.threshold ≤ (consoleHandler (consoleLevel settings)).level := by
    rw [hthreshold, hlevel]
    exact threshold_le_consoleLevel settings env
  have htold := Log.State.told_eq h.count_console hle hlevels
  rw [hlevel] at htold
  exact ⟨htold, by rw [Machine.errors_takeRecords h, htold]⟩

/-! ### After any number of set-ups -/

/-- The machine after the log was set up again and again, whether that failed or not. -/
def afterCalls (calls : List (Settings × Environment)) (w : Machine) : Machine :=
  calls.foldl (fun w call => ((install call.1 call.2 : Action OnMachine Unit).on w).2) w

/-- A set-up that succeeds, and one that fails because its log file is in no directory. -/
def earlierCalls : List (Settings × Environment) :=
  [(⟨some "DEBUG", some "old.log", none⟩, .empty),
    (⟨some "error", some "gone/x.log", none⟩, .empty)]

/-- The log file takes everything, and the console errors only. -/
def lastSettings : Settings := ⟨some "ERROR", some "run.log", some "notset"⟩

def lastMachine : Machine :=
  ((install lastSettings .empty : Action OnMachine Unit).on
    (afterCalls earlierCalls (.ofTree .empty []))).2

def mixedRecords : List Record :=
  [.debug "a" "first", ⟨.error, "b", "second"⟩, ⟨1, "c", "third"⟩]

end DeployScript.Log
