import DeployScript.Proofs.Host.Action

/-!
# What holds of composed actions

Many properties of actions hold of a whole because they hold of its parts. `ClosedForReading`,
`ClosedForSearching` and `ClosedForWriting` say which parts there are: a value, an early end, one
action after another, a record, and the operations of a host on files. A property that is closed so
holds of everything that reads, searches or writes; this is shown here once for all of them.
-/

namespace DeployScript

namespace Action

/-- The property holds of all that is put together from looking at files and telling the log, where
only failures that are `allowed` end an action. -/
structure ClosedForReading (allowed : Failure → Prop)
    (C : ∀ α : Type, Action OnMachine α → Prop) : Prop where
  pure : ∀ {α : Type} (x : α), C α (pure x)
  fail : ∀ {α : Type} {f : Failure}, allowed f → C α (Action.fail f)
  crash : ∀ {α : Type} (c : Crash), C α (Action.crash c)
  bind : ∀ {α β : Type} {a : Action OnMachine α} {g : α → Action OnMachine β},
    C α a → (∀ x, C β (g x)) → C β (a >>= g)
  record : ∀ r : Log.Record, C Unit (Action.record r)
  readBytes : ∀ p : Path,
    C (Except FileError ByteArray) (liftM (Host.readBytes p : OnMachine _))

/-- The property holds of all that is put together from looking for files and at them. -/
structure ClosedForSearching (allowed : Failure → Prop)
    (C : ∀ α : Type, Action OnMachine α → Prop) : Prop extends ClosedForReading allowed C where
  testFile : ∀ p : Path, C (Except FileError Bool) (liftM (Host.isFile p : OnMachine _))
  currentDirectory : C (Except FileError Path) (liftM (Host.currentDirectory : OnMachine _))

/-- The property holds of all that is put together from looking at files and changing them. -/
structure ClosedForWriting (allowed : Failure → Prop)
    (C : ∀ α : Type, Action OnMachine α → Prop) : Prop extends ClosedForReading allowed C where
  isDirectory : ∀ p : Path, C (Except FileError Bool) (liftM (Host.isDirectory p : OnMachine _))
  makeDirectory : ∀ p : Path, C (Except FileError Unit) (liftM (Host.makeDirectory p : OnMachine _))
  writeBytes : ∀ (p : Path) (bytes : ByteArray),
    C (Except FileError Unit) (liftM (Host.writeBytes p bytes : OnMachine _))

variable {allowed : Failure → Prop} {C : ∀ α : Type, Action OnMachine α → Prop}

/-! ### Texts -/

namespace ClosedForReading

theorem checkPath (hC : ClosedForReading allowed C) (p : Path) : C Unit (Action.checkPath p) := by
  rw [Action.checkPath]
  split
  · exact hC.crash _
  · exact hC.pure ()

theorem readText (hC : ClosedForReading allowed C) (p : Path) :
    C (Except FileError String) (Action.readText p) := by
  rw [Action.readText]
  apply hC.bind (hC.checkPath p)
  intro _
  apply hC.bind (hC.readBytes p)
  rintro (e | bytes)
  · exact hC.pure _
  · dsimp only
    split
    · exact hC.pure _
    · exact hC.crash _

end ClosedForReading

/-! ### Places -/

namespace ClosedForSearching

theorem isFile (hC : ClosedForSearching allowed C) (p : Path) : C Bool (Action.isFile p) := by
  rw [Action.isFile]
  split
  · exact hC.pure false
  · apply hC.bind (hC.testFile p)
    rintro (e | found)
    · exact hC.crash _
    · exact hC.pure found

theorem absolute (hC : ClosedForSearching allowed C) (p : Path) : C Path (Action.absolute p) := by
  rw [Action.absolute]
  split
  · exact hC.pure _
  · rw [Action.currentDirectory]
    apply hC.bind
    · apply hC.bind hC.currentDirectory
      rintro (e | path)
      · exact hC.crash _
      · exact hC.pure path
    · intro cwd
      exact hC.pure _

end ClosedForSearching

/-! ### Changes -/

namespace ClosedForWriting

theorem writeText (hC : ClosedForWriting allowed C) (p : Path) (t : Text) :
    C (Except FileError Unit) (Action.writeText p t) := by
  rw [Action.writeText]
  apply hC.bind (hC.checkPath p)
  intro _
  apply hC.bind (hC.writeBytes p _)
  rintro (e | ⟨⟩)
  · exact hC.pure _
  · dsimp only
    split
    · exact hC.crash _
    · exact hC.pure _

/-! ### Directories -/

theorem makeOne (hC : ClosedForWriting allowed C) (p : Path) :
    C (Except FileError Unit) (Action.makeOne p) := by
  rw [Action.makeOne]
  apply hC.bind (hC.makeDirectory p)
  rintro (e | ⟨⟩)
  · dsimp only
    split
    · exact hC.pure _
    · apply hC.bind (hC.isDirectory p)
      rintro (e' | there)
      · exact hC.pure _
      · cases there <;> exact hC.pure _
  · exact hC.pure _

theorem makeAll (hC : ClosedForWriting allowed C) (levels : Nat) (p : Path) :
    C (Except FileError Unit) (Action.makeAll levels p) := by
  induction levels generalizing p with
  | zero => exact hC.crash _
  | succ levels ih =>
    rw [Action.makeAll]
    apply hC.bind (hC.makeOne p)
    rintro (e | ⟨⟩)
    · dsimp only
      split
      · exact hC.pure _
      · apply hC.bind (ih p.parent)
        rintro (e' | ⟨⟩)
        · exact hC.pure _
        · exact hC.makeOne p
    · exact hC.pure _

theorem makeDirectories [Depths] (hC : ClosedForWriting allowed C) (p : Path) :
    C (Except FileError Unit) (Action.makeDirectories p) := by
  rw [Action.makeDirectories]
  apply hC.bind (hC.checkPath p)
  intro _
  exact hC.makeAll _ p

end ClosedForWriting

/-! ### Closed properties -/

theorem closedForReading_keeps {R : Machine → Machine → Prop} (hR : Machine.Lasting R) :
    ClosedForReading (fun _ => True) fun _ a => Keeps R a where
  pure := keeps_pure hR
  fail := fun _ => keeps_fail hR _
  crash := keeps_crash hR
  bind := keeps_bind hR
  record := keeps_record hR
  readBytes := fun _ w => hR.refl w

theorem closedForSearching_keeps {R : Machine → Machine → Prop} (hR : Machine.Lasting R) :
    ClosedForSearching (fun _ => True) fun _ a => Keeps R a where
  toClosedForReading := closedForReading_keeps hR
  testFile := fun _ w => hR.refl w
  currentDirectory := fun w => hR.refl w

theorem keeps_withTree {R : Machine → Machine → Prop} (hR : Machine.Lasting R)
    (htree : ∀ w tree, R w { w with tree }) (w : Machine) (p : Path)
    (result : Except FileCause FileTree) : R w (w.withTree p result).2 := by
  cases result with
  | error cause => exact hR.refl w
  | ok tree => exact htree w tree

/-- What is kept when the log is told something and when the files change is kept by all that
writes. -/
theorem closedForWriting_keeps {R : Machine → Machine → Prop} (hR : Machine.Lasting R)
    (htree : ∀ w tree, R w { w with tree }) :
    ClosedForWriting (fun _ => True) fun _ a => Keeps R a where
  toClosedForReading := closedForReading_keeps hR
  isDirectory := fun _ w => hR.refl w
  makeDirectory := fun p w => keeps_withTree hR htree w p _
  writeBytes := fun p _ w => keeps_withTree hR htree w p _

theorem closedForWriting_failsWith (P : Failure → Prop) :
    ClosedForWriting P fun _ a => FailsWith P a where
  pure := failsWith_pure
  fail := failsWith_fail
  crash := failsWith_crash
  bind := failsWith_bind
  record := fun _ => failsWith_lift _
  readBytes := fun _ => failsWith_lift _
  isDirectory := fun _ => failsWith_lift _
  makeDirectory := fun _ => failsWith_lift _
  writeBytes := fun _ _ => failsWith_lift _

end Action

end DeployScript
