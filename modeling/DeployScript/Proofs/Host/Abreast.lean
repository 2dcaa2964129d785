import DeployScript.Proofs.Host.Alike

/-!
# Machines that are abreast

Two machines are abreast if they look alike and have the same outcomes ahead of them and the same
starts behind them. What was recorded and printed may differ, and so may what the console shows.
What is done uniformly comes to the same on both and leaves them abreast; this is so for everything
that is put together from records, starts and actions that are oblivious and start nothing.
-/

namespace DeployScript

namespace Machine

/-- No program is started: the outcomes ahead and the starts behind are kept. -/
structure SameProgress (w w' : Machine) : Prop where
  outcomes : w'.outcomes = w.outcomes
  starts : w'.starts = w.starts

theorem lasting_sameProgress : Lasting SameProgress where
  refl _ := ⟨rfl, rfl⟩
  trans h h' := ⟨h'.outcomes.trans h.outcomes, h'.starts.trans h.starts⟩
  takeRecord w r := ⟨w.sameOutcomes_takeRecord r, w.starts_takeRecord r⟩

theorem sameProgress_of_tree (w : Machine) (tree : FileTree) :
    w.SameProgress { w with tree } := ⟨rfl, rfl⟩

/-- The machines look alike, and have the same outcomes ahead and the same starts behind. -/
structure Abreast (w u : Machine) : Prop extends Alike w u where
  outcomes : u.outcomes = w.outcomes
  starts : u.starts = w.starts

variable {w w' u u' : Machine}

theorem Abreast.of_sameProgress (h : w.Abreast u) (halike : w'.Alike u') (hw : w.SameProgress w')
    (hu : u.SameProgress u') : w'.Abreast u' := by
  refine ⟨halike, ?_, ?_⟩
  · rw [hu.outcomes, hw.outcomes, h.outcomes]
  · rw [hu.starts, hw.starts, h.starts]

end Machine

open Machine (Abreast SameProgress)

variable {α β : Type}

/-- On machines that are abreast this comes to the same, and leaves them abreast. -/
structure Uniform (x : OnMachine α) : Prop where
  result : ∀ {w u}, w.Abreast u → (x.run u).1 = (x.run w).1
  abreast : ∀ {w u}, w.Abreast u → (x.run w).2.Abreast (x.run u).2

namespace Uniform

/-! ### One thing after another -/

theorem pure (y : α) : Uniform (Pure.pure y : OnMachine α) := ⟨fun _ => rfl, fun h => h⟩

theorem bind {x : OnMachine α} {f : α → OnMachine β} (hx : Uniform x) (hf : ∀ y, Uniform (f y)) :
    Uniform (x >>= f) := by
  constructor
  · intro w u h
    change ((f (x.run u).1).run (x.run u).2).1 = ((f (x.run w).1).run (x.run w).2).1
    rw [hx.result h]
    exact (hf _).result (hx.abreast h)
  · intro w u h
    change ((f (x.run w).1).run (x.run w).2).2.Abreast ((f (x.run u).1).run (x.run u).2).2
    rw [hx.result h]
    exact (hf _).abreast (hx.abreast h)

theorem action_bind {a : Action OnMachine α} {f : α → Action OnMachine β} (ha : Uniform a.run)
    (hf : ∀ y, Uniform (f y).run) : Uniform (a >>= f).run := by
  rw [ExceptT.run_bind]
  apply ha.bind
  rintro (e | y)
  · exact .pure _
  · exact hf y

theorem lift {x : OnMachine α} (hx : Uniform x) : Uniform (liftM x : Action OnMachine α).run := by
  constructor
  · intro w u h
    exact congrArg Except.ok (hx.result h)
  · intro w u h
    exact hx.abreast h

/-! ### What is uniform -/

theorem record (r : Log.Record) : Uniform (Host.record r : OnMachine Unit) := by
  constructor
  · intro w u h
    rfl
  · intro w u h
    have halike := h.toAlike.of_sameFiles (w.sameFiles_takeRecord r) (u.sameFiles_takeRecord r)
    exact h.of_sameProgress halike (Machine.lasting_sameProgress.takeRecord w r)
      (Machine.lasting_sameProgress.takeRecord u r)

/-- A start takes the next outcome, which is the same on both machines. -/
theorem start (s : Start) : Uniform (Host.start s : OnMachine Outcome) := by
  constructor
  · intro w u h
    exact congrArg (fun outcomes => outcomes.head?.getD .silent) h.outcomes
  · intro w u h
    exact ⟨⟨h.tree, h.directory, h.log, h.log'⟩, congrArg List.tail h.outcomes,
      congrArg (· ++ [s]) h.starts⟩

theorem of_oblivious {a : Action OnMachine α} (ha : a.Oblivious) (hkept : a.Keeps SameProgress) :
    Uniform a.run := by
  constructor
  · intro w u h
    exact ha.result h.toAlike
  · intro w u h
    exact h.of_sameProgress (ha.alike h.toAlike) (hkept w) (hkept u)

end Uniform

end DeployScript
