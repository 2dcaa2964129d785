import DeployScript.Proofs.Host.Action

/-!
# Watched machines

A watched machine does what the machine does, and notes at which paths files are looked for and
read. What is done unseen is done without such a note; it comes to the same as on the machine.
-/

namespace DeployScript

variable {α β : Type}

/-- What is done on a machine while the paths of files that are looked for and read are noted. -/
abbrev OnWatched := StateT (List Path) OnMachine

namespace Watched

def quietly (x : OnMachine α) : OnWatched α := StateT.lift x

def noting (p : Path) (x : OnMachine α) : OnWatched α := do
  modify fun paths => paths ++ [p]
  quietly x

theorem quietly_bind (x : OnMachine α) (f : α → OnMachine β) :
    (quietly x >>= fun y => quietly (f y)) = quietly (x >>= f) := rfl

end Watched

open Watched (quietly noting quietly_bind)

instance : Host OnWatched where
  currentDirectory := quietly Host.currentDirectory
  isFile p := noting p (Host.isFile p)
  isDirectory p := quietly (Host.isDirectory p)
  readBytes p := noting p (Host.readBytes p)
  makeDirectory p := quietly (Host.makeDirectory p)
  writeBytes p bytes := quietly (Host.writeBytes p bytes)
  openForAppend p := quietly (Host.openForAppend p)
  start s := quietly (Host.start s)
  record r := quietly (Host.record r)
  logState := quietly Host.logState
  setLogState log := quietly (Host.setLogState log)
  print text := quietly (Host.print text)
  complain text := quietly (Host.complain text)

/-- The action on a watched machine does unseen what the other one does on the machine. -/
def Unseen (a : Action OnWatched α) (b : Action OnMachine α) : Prop := a.run = quietly b.run

namespace Unseen

theorem pure (x : α) : Unseen (Pure.pure x) (Pure.pure x) := rfl

theorem crash (c : Crash) : Unseen (Action.crash c : Action OnWatched α) (Action.crash c) := rfl

theorem lift (x : OnMachine α) : Unseen (liftM (quietly x)) (liftM x) := rfl

theorem bind {a : Action OnWatched α} {b : Action OnMachine α} {f : α → Action OnWatched β}
    {g : α → Action OnMachine β} (ha : Unseen a b) (hf : ∀ x, Unseen (f x) (g x)) :
    Unseen (a >>= f) (b >>= g) := by
  rw [Unseen] at ha
  rw [Unseen, ExceptT.run_bind, ExceptT.run_bind, ha, ← quietly_bind]
  congr 1
  funext result
  cases result with
  | error e => rfl
  | ok x => exact hf x

/-- What is done unseen leaves the notes as they are, and comes to what it does on the machine. -/
theorem run_of_on {a : Action OnWatched α} {b : Action OnMachine α} (h : Unseen a b)
    {x : Except Abort α} {w w' : Machine} (hon : b.on w = (x, w')) (paths : List Path) :
    (a.run.run paths).run w = ((x, paths), w') := by
  rw [h]
  change (((b.on w).1, paths), (b.on w).2) = _
  rw [hon]

end Unseen

end DeployScript
