import DeployScript.Proofs.Host.Closed

/-!
# Machines that look alike

Two machines look alike if they have the same files and the same current directory, and neither logs
to a file. What was started, recorded and printed, and what comes of the programs still to be
started, may differ. An action that is oblivious to all this comes to the same on both machines and
leaves machines that look alike.
-/

namespace DeployScript

namespace Machine

/-- The machines have the same files and the same current directory, and log to no file. -/
structure Alike (w u : Machine) : Prop where
  tree : u.tree = w.tree
  directory : u.directory = w.directory
  log : w.log.file = none
  log' : u.log.file = none

variable {w w' u u' : Machine}

theorem Alike.of_sameFiles (h : w.Alike u) (hw : w.SameFiles w') (hu : u.SameFiles u') :
    w'.Alike u' := by
  constructor
  · rw [hu.tree h.log', hw.tree h.log, h.tree]
  · rw [hu.setting.directory, hw.setting.directory, h.directory]
  · rw [hw.setting.log, h.log]
  · rw [hu.setting.log, h.log']

theorem Alike.withTree (h : w.Alike u) (p : Path) (result : Except FileCause FileTree) :
    (u.withTree p result).1 = (w.withTree p result).1 ∧
      (w.withTree p result).2.Alike (u.withTree p result).2 := by
  cases result with
  | error cause => exact ⟨rfl, h⟩
  | ok t => exact ⟨rfl, rfl, h.directory, h.log, h.log'⟩

end Machine

namespace Action

variable {α β : Type}

/-- On machines that look alike the action comes to the same, and leaves them alike. -/
structure Oblivious (a : Action OnMachine α) : Prop where
  result : ∀ {w u}, w.Alike u → (a.on u).1 = (a.on w).1
  alike : ∀ {w u}, w.Alike u → (a.on w).2.Alike (a.on u).2

/-- Looking at the files, seen from the current directory. -/
theorem oblivious_of_look {a : Action OnMachine α} (look : FileTree → Standing → Except Abort α)
    (h : ∀ w, a.on w = (look w.tree w.directory, w)) : Oblivious a := by
  constructor
  · intro w u halike
    rw [h, h, halike.tree, halike.directory]
  · intro w u halike
    rw [h, h]
    exact halike

theorem oblivious_pure (x : α) : Oblivious (pure x : Action OnMachine α) :=
  oblivious_of_look (fun _ _ => .ok x) fun _ => rfl

theorem oblivious_fail (f : Failure) : Oblivious (fail f : Action OnMachine α) :=
  oblivious_of_look (fun _ _ => .error (.failure f)) fun _ => rfl

theorem oblivious_crash (c : Crash) : Oblivious (crash c : Action OnMachine α) :=
  oblivious_of_look (fun _ _ => .error (.crash c)) fun _ => rfl

theorem oblivious_record (r : Log.Record) : Oblivious (record r : Action OnMachine Unit) := by
  constructor
  · intro w u h
    rfl
  · intro w u h
    exact h.of_sameFiles (w.sameFiles_takeRecord r) (u.sameFiles_takeRecord r)

theorem oblivious_bind {a : Action OnMachine α} {f : α → Action OnMachine β} (ha : Oblivious a)
    (hf : ∀ x, Oblivious (f x)) : Oblivious (a >>= f) := by
  have hboth : ∀ {w u}, w.Alike u →
      ((a >>= f).on u).1 = ((a >>= f).on w).1 ∧
        ((a >>= f).on w).2.Alike ((a >>= f).on u).2 := by
    intro w u h
    have hresult := ha.result h
    have halike := ha.alike h
    rw [on_bind, on_bind]
    rcases hw : a.on w with ⟨e | x, w'⟩ <;> rcases hu : a.on u with ⟨e' | x', u'⟩ <;>
      rw [hw, hu] at hresult halike <;> cases hresult
    · exact ⟨rfl, halike⟩
    · exact ⟨(hf x).result halike, (hf x).alike halike⟩
  constructor
  · intro w u h
    exact (hboth h).1
  · intro w u h
    exact (hboth h).2

/-- Changing the files, seen from the current directory. -/
theorem oblivious_of_change {a : Action OnMachine (Except FileError Unit)} (p : Path)
    (change : FileTree → Standing → Except FileCause FileTree)
    (h : ∀ w, a.on w = (.ok (w.withTree p (change w.tree w.directory)).1,
      (w.withTree p (change w.tree w.directory)).2)) : Oblivious a := by
  constructor
  · intro w u halike
    rw [h, h, halike.tree, halike.directory, (halike.withTree p _).1]
  · intro w u halike
    rw [h, h, halike.tree, halike.directory]
    exact (halike.withTree p _).2

theorem closedForWriting_oblivious :
    ClosedForWriting (fun _ => True) fun _ a => Oblivious a where
  pure := oblivious_pure
  fail := fun _ => oblivious_fail _
  crash := oblivious_crash
  bind := oblivious_bind
  record := oblivious_record
  readBytes := fun p =>
    oblivious_of_look (fun t cwd => .ok ((t.read cwd p).mapError (Machine.fileError p)))
      fun _ => rfl
  isDirectory := fun p =>
    oblivious_of_look
      (fun t cwd => .ok (({ Machine.ofTree t [] with directory := cwd } : Machine).testNode p
        FileNode.isDirectory))
      fun _ => rfl
  makeDirectory := fun p =>
    oblivious_of_change p (fun t cwd => t.makeDirectory cwd p) fun _ => rfl
  writeBytes := fun p bytes =>
    oblivious_of_change p (fun t cwd => t.write cwd p bytes) fun _ => rfl

theorem closedForSearching_oblivious :
    ClosedForSearching (fun _ => True) fun _ a => Oblivious a where
  toClosedForReading := closedForWriting_oblivious.toClosedForReading
  testFile := fun p =>
    oblivious_of_look
      (fun t cwd => .ok (({ Machine.ofTree t [] with directory := cwd } : Machine).testNode p
        FileNode.isFile))
      fun _ => rfl
  currentDirectory :=
    oblivious_of_look
      (fun t cwd => .ok ({ Machine.ofTree t [] with directory := cwd } : Machine).directoryPath)
      fun _ => rfl

end Action

end DeployScript
