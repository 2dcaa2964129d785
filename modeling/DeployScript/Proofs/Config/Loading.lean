import DeployScript.Config.Load
import DeployScript.Proofs.Host.Closed

/-!
# What loading a configuration consists of

Loading a configuration looks for files, reads one of them and tells the log; its failures are those
of a configuration. So what is closed for searching, with these failures, holds of it as it does of
its parts.
-/

namespace DeployScript

namespace Config

variable {allowed : Failure → Prop} {C : ∀ α : Type, Action OnMachine α → Prop}

theorem closed_firstFile (hC : Action.ClosedForSearching allowed C) (paths : List Path) :
    C (Option Path) (firstFile paths) := by
  induction paths with
  | nil => exact hC.pure none
  | cons p rest ih =>
    rw [firstFile]
    apply hC.bind (hC.isFile p)
    intro found
    split
    · exact hC.pure (some p)
    · exact ih

theorem closed_find? (hC : Action.ClosedForSearching allowed C) (start : Option Path) :
    C (Option Path) (find? start) := by
  rw [find?]
  apply hC.bind (hC.checkPath _)
  intro _
  apply hC.bind (hC.absolute _)
  intro directory
  exact closed_firstFile hC (candidates directory)

/-- What a text writes is a configuration or one of the ends that a text can have. -/
theorem closed_ofText [Depths] (hC : Action.ClosedForReading allowed C)
    (hallowed : ∀ e, allowed (.config e)) (path : Text) (text : String) :
    C Config (ExceptT.mk (pure (ofText path text))) := by
  rw [ofText]
  split
  · exact hC.fail (hallowed _)
  · exact hC.crash _
  · next d _ =>
    cases ofContent path d with
    | error e => exact hC.fail (hallowed e)
    | ok c => exact hC.pure c

theorem closed_loadFile [Depths] (hC : Action.ClosedForSearching allowed C)
    (hallowed : ∀ e, allowed (.config e)) (p : Path) : C Config (loadFile p) := by
  rw [loadFile]
  apply hC.bind (hC.record _)
  intro _
  apply hC.bind (hC.readText p)
  rintro (e | text)
  · exact hC.fail (hallowed _)
  · apply hC.bind (closed_ofText hC.toClosedForReading hallowed p.text text)
    intro c
    apply hC.bind (hC.absolute _)
    intro root
    exact hC.pure _

/-- What is closed for searching, with the failures of a configuration, holds of loading one. -/
theorem closed_load [Depths] (hC : Action.ClosedForSearching allowed C)
    (hallowed : ∀ e, allowed (.config e)) (path : Option Path) (search : Bool) :
    C Config (load path search) := by
  cases path with
  | some p =>
    rw [load]
    apply hC.bind (hC.isFile p)
    intro found
    split
    · exact closed_loadFile hC hallowed p
    · exact hC.fail (hallowed _)
  | none =>
    have hdefault : C Config (do
        Action.record (.debug logger s!"No {fileName} found, using defaults")
        return .default) := hC.bind (hC.record _) fun _ => hC.pure _
    rw [load]
    split
    · apply hC.bind (closed_find? hC none)
      rintro (_ | p)
      · exact hdefault
      · exact closed_loadFile hC hallowed p
    · rw [pure_bind]
      exact hdefault

theorem keeps_load [Depths] {R : Machine → Machine → Prop} (hR : Machine.Lasting R)
    (path : Option Path) (search : Bool) : Action.Keeps R (load path search) :=
  closed_load (Action.closedForSearching_keeps hR) (fun _ => trivial) path search

end Config

end DeployScript
