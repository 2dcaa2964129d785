import DeployScript.Generate
import DeployScript.Proofs.Host.Action

/-!
# The entries that count

Of all the entries of an interface the arguments depend on two, the first constructor and the first
initializer. What is told depends on these and on how many initializers there are: of several, a
warning tells once, and that is the only warning. Entries of any other kind, and the places that the
entries stand at, do not show.
-/

namespace DeployScript

namespace Abi

variable {first second : List Entry}

/-! ### Arguments -/

theorem initializer?_eq_find? (abi : List Entry) :
    initializer? abi = abi.find? Entry.isInitializer :=
  List.head?_filter

theorem length_initializers (abi : List Entry) :
    (initializers abi).length = abi.countP Entry.isInitializer :=
  List.countP_eq_length_filter.symm

theorem resolve_congr (hconstructor : constructor? first = constructor? second)
    (hinitializer : initializer? first = initializer? second) :
    resolve first = resolve second := by
  rw [resolve, resolve, hconstructor, hinitializer]

/-! ### Notices -/

/-- There is a notice of a choice exactly if there is something to choose, and then one. -/
theorem overloadNotices_eq (abi : List Entry) :
    overloadNotices abi = if 2 ≤ (initializers abi).length then
      ((initializer? abi).map fun e =>
        Notice.overloads (initializers abi).length e.inputs.length).toList
    else [] := by
  rw [overloadNotices, initializer?]
  cases initializers abi with
  | nil => rfl
  | cons e rest =>
    cases rest with
    | nil => rfl
    | cons f rest => simp

theorem notices_congr (hconstructor : constructor? first = constructor? second)
    (hinitializer : initializer? first = initializer? second)
    (hnumber : (initializers first).length = (initializers second).length) :
    notices first = notices second := by
  rw [notices, notices, overloadNotices_eq, overloadNotices_eq, hconstructor, hinitializer, hnumber]

/-! ### Warnings -/

/-- Those of the records that warn. -/
def warnings (told : List Log.Record) : List Log.Record :=
  told.filter fun r => r.level == Log.Level.warning

/-- Among what was told, one warning tells of the choice among several initializers, and without a
choice there is none. -/
structure WarnsOfOverloads (abi : List Entry) (told : List Log.Record) : Prop where
  once : 2 ≤ abi.countP Entry.isInitializer → ∃ e, abi.find? Entry.isInitializer = some e ∧
    warnings told = [(Notice.overloads (abi.countP Entry.isInitializer) e.inputs.length).record]
  only : abi.countP Entry.isInitializer < 2 → warnings told = []

theorem warnings_append (told told' : List Log.Record) :
    warnings (told ++ told') = warnings told ++ warnings told' :=
  List.filter_append ..

theorem warnings_overloadNotices (abi : List Entry) :
    warnings ((overloadNotices abi).map Notice.record) =
      (overloadNotices abi).map Notice.record := by
  rw [warnings, List.filter_eq_self]
  intro r hr
  obtain ⟨notice, hnotice, rfl⟩ := List.mem_map.mp hr
  rw [overloadNotices_eq] at hnotice
  obtain ⟨e, -, rfl⟩ : ∃ e, initializer? abi = some e ∧
      Notice.overloads (initializers abi).length e.inputs.length = notice := by
    simpa using (List.mem_ite_nil_right.mp hnotice).2
  rfl

theorem warnings_renamings (constructor init : List Parameter) :
    warnings ((renamings constructor init).map Notice.record) = [] := by
  rw [warnings, List.filter_eq_nil_iff]
  intro r hr
  obtain ⟨notice, hnotice, rfl⟩ := List.mem_map.mp hr
  obtain ⟨p, -, rfl⟩ := List.mem_map.mp hnotice
  have hlevel : (Notice.renamed p.name p.renamed.name).record.level = Log.Level.info := rfl
  rw [hlevel]
  decide

theorem warnings_notices (abi : List Entry) :
    warnings ((notices abi).map Notice.record) = (overloadNotices abi).map Notice.record := by
  rw [notices, List.map_append, warnings_append, warnings_overloadNotices]
  split
  · rw [warnings_renamings, List.append_nil]
  · exact List.append_nil _

theorem warnsOfOverloads_notices (abi : List Entry) :
    WarnsOfOverloads abi ((notices abi).map Notice.record) := by
  have hwarnings := warnings_notices abi
  rw [overloadNotices_eq, initializer?_eq_find?, length_initializers] at hwarnings
  constructor
  · intro hseveral
    -- where there are two there is a first
    have hsome : ∃ e ∈ abi, e.isInitializer = true := List.countP_pos_iff.mp (by omega)
    obtain ⟨e, he⟩ := Option.isSome_iff_exists.mp (List.find?_isSome.mpr hsome)
    refine ⟨e, he, ?_⟩
    rw [hwarnings, if_pos hseveral, he]
    rfl
  · intro hfew
    rw [hwarnings, if_neg (by omega)]
    rfl

end Abi

/-! ### Runs -/

namespace Generate

open DeployScript.Abi (Entry Notice WarnsOfOverloads notices)

theorem records_forM_record (notices : List Notice) (w : Machine) :
    ((notices.forM fun notice => (Host.record notice.record : OnMachine Unit)).run w).2.records =
      w.records ++ notices.map Notice.record := by
  induction notices generalizing w with
  | nil => exact (List.append_nil _).symm
  | cons notice rest ih =>
    refine (ih (w.takeRecord notice.record)).trans ?_
    rw [Machine.records_takeRecord, List.map_cons, List.append_assoc, List.singleton_append]

theorem records_resolve (abi : List Entry) (w : Machine) :
    ((resolve abi : OnMachine Abi.Arguments).run w).2.records =
      w.records ++ (notices abi).map Notice.record :=
  records_forM_record (notices abi) w

/-- Two interfaces that agree in the first constructor and in the first initializer have the same
arguments. If they have as many initializers, the same is told of them as well. -/
theorem resolve_of_same_entries {first second : List Entry}
    (hconstructor : first.find? Entry.isConstructor = second.find? Entry.isConstructor)
    (hinitializer : first.find? Entry.isInitializer = second.find? Entry.isInitializer)
    (w u : Machine) :
    ((resolve first : OnMachine Abi.Arguments).run w).1 =
      ((resolve second : OnMachine Abi.Arguments).run u).1 ∧
    ∃ told told' : List Log.Record,
      ((resolve first : OnMachine Abi.Arguments).run w).2.records = w.records ++ told ∧
      ((resolve second : OnMachine Abi.Arguments).run u).2.records = u.records ++ told' ∧
      WarnsOfOverloads first told ∧ WarnsOfOverloads second told' ∧
      (first.countP Entry.isInitializer = second.countP Entry.isInitializer → told = told') := by
  rw [← Abi.initializer?_eq_find?, ← Abi.initializer?_eq_find?] at hinitializer
  constructor
  · exact Abi.resolve_congr hconstructor hinitializer
  · refine ⟨_, _, records_resolve first w, records_resolve second u,
      Abi.warnsOfOverloads_notices first, Abi.warnsOfOverloads_notices second, ?_⟩
    intro hnumber
    rw [← Abi.length_initializers, ← Abi.length_initializers] at hnumber
    rw [Abi.notices_congr hconstructor hinitializer hnumber]

/-- An interface with an event in front and with two initializers. -/
def pausableEntries : List Entry :=
  [ ⟨"event", some "Paused", []⟩,
    ⟨"constructor", none, [⟨"owner", "address"⟩]⟩,
    ⟨"function", some "initialize", [⟨"owner", "address"⟩]⟩,
    ⟨"function", some "initialize", []⟩ ]

/-- The same with the initializer in front, another constructor and another second initializer. -/
def reorderedEntries : List Entry :=
  [ ⟨"function", some "initialize", [⟨"owner", "address"⟩]⟩,
    ⟨"constructor", none, [⟨"owner", "address"⟩]⟩,
    ⟨"error", some "initialize", [⟨"code", "uint8"⟩]⟩,
    ⟨"constructor", none, []⟩,
    ⟨"function", some "pause", []⟩,
    ⟨"function", some "initialize", [⟨"cap", "uint256"⟩]⟩ ]

theorem resolve_reorderedEntries :
    pausableEntries.find? Entry.isConstructor = reorderedEntries.find? Entry.isConstructor ∧
    pausableEntries.find? Entry.isInitializer = reorderedEntries.find? Entry.isInitializer ∧
    pausableEntries.countP Entry.isInitializer = reorderedEntries.countP Entry.isInitializer ∧
    ((resolve pausableEntries : OnMachine Abi.Arguments).run (.ofTree .empty [])).1 =
      ((resolve reorderedEntries : OnMachine Abi.Arguments).run (.ofTree .empty [])).1 ∧
    ((resolve pausableEntries : OnMachine Abi.Arguments).run (.ofTree .empty [])).2.records =
      ((resolve reorderedEntries : OnMachine Abi.Arguments).run (.ofTree .empty [])).2.records := by
  have hconstructor : pausableEntries.find? Entry.isConstructor =
      reorderedEntries.find? Entry.isConstructor := by decide
  have hinitializer : pausableEntries.find? Entry.isInitializer =
      reorderedEntries.find? Entry.isInitializer := by decide
  have hnumber : pausableEntries.countP Entry.isInitializer =
      reorderedEntries.countP Entry.isInitializer := by decide
  obtain ⟨harguments, told, told', htold, htold', -, -, hsame⟩ :=
    resolve_of_same_entries hconstructor hinitializer (.ofTree .empty []) (.ofTree .empty [])
  refine ⟨hconstructor, hinitializer, hnumber, harguments, ?_⟩
  rw [htold, htold', hsame hnumber]

end Generate

end DeployScript
