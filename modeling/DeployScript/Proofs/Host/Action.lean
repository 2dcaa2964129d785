import DeployScript.Files.Access
import DeployScript.Host.Machine

/-!
# Actions on a machine

An action on a machine comes to a value or to an early end, and leaves a machine. What an action
keeps of a machine is said by a relation between the machine before and the one after; what all its
parts keep, the whole keeps.
-/

namespace DeployScript

/-! ### Running actions -/

namespace Action

variable {α β : Type}

/-- What an action comes to on a machine, and the machine that it leaves. -/
def on (a : Action OnMachine α) (w : Machine) : Except Abort α × Machine := a.run.run w

@[simp] theorem on_pure (x : α) (w : Machine) : (pure x : Action OnMachine α).on w = (.ok x, w) :=
  rfl

@[simp] theorem on_fail (f : Failure) (w : Machine) :
    (fail f : Action OnMachine α).on w = (.error (.failure f), w) := rfl

@[simp] theorem on_crash (c : Crash) (w : Machine) :
    (crash c : Action OnMachine α).on w = (.error (.crash c), w) := rfl

@[simp] theorem on_lift (x : OnMachine α) (w : Machine) :
    (liftM x : Action OnMachine α).on w = (.ok (x.run w).1, (x.run w).2) := rfl

@[simp] theorem on_record (r : Log.Record) (w : Machine) :
    (record r : Action OnMachine Unit).on w = (.ok (), w.takeRecord r) := rfl

theorem on_bind (a : Action OnMachine α) (f : α → Action OnMachine β) (w : Machine) :
    (a >>= f).on w = match a.on w with
      | (.ok x, w') => (f x).on w'
      | (.error e, w') => (.error e, w') := by
  simp only [on, ExceptT.run_bind, StateT.run_bind]
  cases a.run.run w with
  | mk result w' =>
    cases result with
    | ok x => rfl
    | error e => rfl

theorem on_bind_ok {a : Action OnMachine α} {f : α → Action OnMachine β} {w w' : Machine} {x : α}
    (h : a.on w = (.ok x, w')) : (a >>= f).on w = (f x).on w' := by
  rw [on_bind, h]

theorem on_bind_error {a : Action OnMachine α} {f : α → Action OnMachine β} {w w' : Machine}
    {e : Abort} (h : a.on w = (.error e, w')) : (a >>= f).on w = (.error e, w') := by
  rw [on_bind, h]

/-- What ends well has every part end well. -/
theorem exists_of_on_bind_ok {a : Action OnMachine α} {f : α → Action OnMachine β}
    {w w' : Machine} {y : β} (h : (a >>= f).on w = (.ok y, w')) :
    ∃ x u, a.on w = (.ok x, u) ∧ (f x).on u = (.ok y, w') := by
  rw [on_bind] at h
  rcases hon : a.on w with ⟨e | x, u⟩ <;> rw [hon] at h
  · cases h
  · exact ⟨x, u, rfl, h⟩

theorem on_bind_pure (a : Action OnMachine α) (f : α → β) (w : Machine) :
    (a >>= fun x => pure (f x)).on w = ((a.on w).1.map f, (a.on w).2) := by
  rw [on_bind]
  rcases a.on w with ⟨e | x, w'⟩
  · rfl
  · rfl

/-- The directory that two dots and the like lead to, if it is known. -/
theorem on_absolute (w : Machine) (p : Path) :
    (absolute p : Action OnMachine Path).on w =
      (if p.isAbsolute then .ok (.resolve .top p)
        else match w.directoryPath with
          | .ok cwd => .ok (.resolve cwd p)
          | .error e => .error (.crash (.file e)), w) := by
  rw [absolute]
  split
  · rfl
  · have hhost : (liftM (Host.currentDirectory : OnMachine _) : Action OnMachine _).on w =
        (.ok w.directoryPath, w) := rfl
    rw [currentDirectory]
    cases hpath : w.directoryPath with
    | error e =>
      rw [hpath] at hhost
      rw [on_bind_error ((on_bind_ok hhost).trans (on_crash _ w))]
    | ok cwd =>
      rw [hpath] at hhost
      rw [on_bind_ok ((on_bind_ok hhost).trans (on_pure cwd w))]
      rfl

end Action

/-! ### What is kept -/

namespace Machine

/-- The current directory and the way records are logged are kept. -/
structure SameSetting (w w' : Machine) : Prop where
  directory : w'.directory = w.directory
  log : w'.log = w.log

def SameOutcomes (w w' : Machine) : Prop := w'.outcomes = w.outcomes

def SameOutput (w w' : Machine) : Prop := w'.output = w.output

/-- The files are kept, as long as none of them is a log file. -/
structure SameFiles (w w' : Machine) : Prop where
  setting : w.SameSetting w'
  tree : w.log.file = none → w'.tree = w.tree

variable {w w' w'' : Machine}

theorem SameSetting.refl (w : Machine) : w.SameSetting w := ⟨rfl, rfl⟩

theorem SameSetting.trans (h : w.SameSetting w') (h' : w'.SameSetting w'') : w.SameSetting w'' :=
  ⟨h'.directory.trans h.directory, h'.log.trans h.log⟩

theorem SameOutcomes.refl (w : Machine) : w.SameOutcomes w := rfl

theorem SameOutcomes.trans (h : w.SameOutcomes w') (h' : w'.SameOutcomes w'') :
    w.SameOutcomes w'' := Eq.trans h' h

theorem SameFiles.refl (w : Machine) : w.SameFiles w := ⟨.refl w, fun _ => rfl⟩

theorem SameFiles.trans (h : w.SameFiles w') (h' : w'.SameFiles w'') : w.SameFiles w'' := by
  refine ⟨h.setting.trans h'.setting, ?_⟩
  intro hlog
  have hlog' : w'.log.file = none := by rw [h.setting.log, hlog]
  exact (h'.tree hlog').trans (h.tree hlog)

theorem exists_withTree_eq (w : Machine) (p : Path) (tree : Except FileCause FileTree) :
    ∃ tree', (w.withTree p tree).2 = { w with tree := tree' } := by
  cases tree with
  | error cause => exact ⟨_, rfl⟩
  | ok tree => exact ⟨_, rfl⟩

/-- A handler writes to standard error or to a file. -/
theorem exists_handle_eq (w : Machine) (r : Log.Record) (h : Log.Handler) :
    ∃ tree errors, w.handle r h = { w with tree, errors } := by
  rw [handle]
  split
  · exact ⟨_, _, rfl⟩
  · split
    · exact ⟨_, _, rfl⟩
    · obtain ⟨tree, heq⟩ := w.exists_withTree_eq _ _
      exact ⟨tree, _, heq⟩

theorem exists_foldl_handle_eq (w : Machine) (r : Log.Record) (handlers : List Log.Handler) :
    ∃ tree errors, handlers.foldl (handle r) w = { w with tree, errors } := by
  induction handlers generalizing w with
  | nil => exact ⟨_, _, rfl⟩
  | cons h rest ih =>
    obtain ⟨tree, errors, hfirst⟩ := w.exists_handle_eq r h
    obtain ⟨tree', errors', hrest⟩ := ih (w.handle r h)
    exact ⟨tree', errors', by rw [List.foldl_cons, hrest, hfirst]⟩

/-- A record goes to the handlers, and is kept. -/
theorem exists_takeRecord_eq (w : Machine) (r : Log.Record) :
    ∃ tree errors, w.takeRecord r = { w with tree, errors, records := w.records ++ [r] } :=
  exists_foldl_handle_eq _ r _

/-- Handlers for the console leave the files alone. -/
theorem tree_foldl_handle (w : Machine) (r : Log.Record) {handlers : List Log.Handler}
    (h : ∀ h ∈ handlers, h.sink = .console) : (handlers.foldl (handle r) w).tree = w.tree := by
  induction handlers generalizing w with
  | nil => rfl
  | cons first rest ih =>
    rw [List.forall_mem_cons] at h
    rw [List.foldl_cons, ih (w.handle r first) h.2, handle, h.1]

theorem records_takeRecord (w : Machine) (r : Log.Record) :
    (w.takeRecord r).records = w.records ++ [r] := by
  obtain ⟨tree, errors, heq⟩ := w.exists_takeRecord_eq r
  rw [heq]

theorem starts_takeRecord (w : Machine) (r : Log.Record) : (w.takeRecord r).starts = w.starts := by
  obtain ⟨tree, errors, heq⟩ := w.exists_takeRecord_eq r
  rw [heq]

theorem sameSetting_takeRecord (w : Machine) (r : Log.Record) : w.SameSetting (w.takeRecord r) := by
  obtain ⟨tree, errors, heq⟩ := w.exists_takeRecord_eq r
  rw [heq]
  exact ⟨rfl, rfl⟩

theorem sameOutcomes_takeRecord (w : Machine) (r : Log.Record) :
    w.SameOutcomes (w.takeRecord r) := by
  obtain ⟨tree, errors, heq⟩ := w.exists_takeRecord_eq r
  rw [heq]
  exact rfl

theorem sameOutput_takeRecord (w : Machine) (r : Log.Record) : w.SameOutput (w.takeRecord r) := by
  obtain ⟨tree, errors, heq⟩ := w.exists_takeRecord_eq r
  rw [heq]
  exact rfl

theorem sameFiles_takeRecord (w : Machine) (r : Log.Record) : w.SameFiles (w.takeRecord r) := by
  refine ⟨w.sameSetting_takeRecord r, ?_⟩
  intro hlog
  exact tree_foldl_handle _ r fun h hh =>
    Log.State.file_eq_none_iff.1 hlog h (Log.State.mem_handlers_of_mem_takers hh)

theorem sameFiles_runProgram (w : Machine) (s : Start) : w.SameFiles (w.runProgram s).2 :=
  ⟨⟨rfl, rfl⟩, fun _ => rfl⟩

/-- What holds between a machine and all that follow it as long as only the log is told
something. -/
structure Lasting (R : Machine → Machine → Prop) : Prop where
  refl : ∀ w, R w w
  trans : ∀ {w w' w''}, R w w' → R w' w'' → R w w''
  takeRecord : ∀ w r, R w (w.takeRecord r)

theorem lasting_sameSetting : Lasting SameSetting :=
  ⟨.refl, .trans, sameSetting_takeRecord⟩

theorem lasting_sameOutcomes : Lasting SameOutcomes :=
  ⟨.refl, .trans, sameOutcomes_takeRecord⟩

theorem lasting_sameFiles : Lasting SameFiles :=
  ⟨.refl, .trans, sameFiles_takeRecord⟩

/-- What holds between a machine and all that follow it as long as programs are started and the log
is told something. -/
structure Enduring (R : Machine → Machine → Prop) : Prop extends Lasting R where
  runProgram : ∀ w s, R w (w.runProgram s).2

theorem enduring_sameSetting : Enduring SameSetting := ⟨lasting_sameSetting, fun _ _ => ⟨rfl, rfl⟩⟩

theorem enduring_sameFiles : Enduring SameFiles := ⟨lasting_sameFiles, sameFiles_runProgram⟩

theorem enduring_sameOutput : Enduring SameOutput :=
  ⟨⟨fun _ => rfl, fun h h' => Eq.trans h' h, sameOutput_takeRecord⟩, fun _ _ => rfl⟩

end Machine

namespace Action

open Machine (Lasting)

variable {α β : Type} {R : Machine → Machine → Prop}

/-- Whatever the machine is, the one that the action leaves stands in this relation to it. -/
def Keeps (R : Machine → Machine → Prop) (a : Action OnMachine α) : Prop := ∀ w, R w (a.on w).2

theorem Keeps.of_on {a : Action OnMachine α} (ha : Keeps R a) {x : Except Abort α}
    {w w' : Machine} (hon : a.on w = (x, w')) : R w w' := by
  have hkept := ha w
  rwa [hon] at hkept

theorem keeps_pure (hR : Lasting R) (x : α) : Keeps R (pure x) := fun w => hR.refl w

theorem keeps_fail (hR : Lasting R) (f : Failure) : Keeps R (fail f : Action OnMachine α) :=
  fun w => hR.refl w

theorem keeps_crash (hR : Lasting R) (c : Crash) : Keeps R (crash c : Action OnMachine α) :=
  fun w => hR.refl w

theorem keeps_record (hR : Lasting R) (r : Log.Record) :
    Keeps R (record r : Action OnMachine Unit) := fun w => hR.takeRecord w r

theorem keeps_bind (hR : Lasting R) {a : Action OnMachine α} {f : α → Action OnMachine β}
    (ha : Keeps R a) (hf : ∀ x, Keeps R (f x)) : Keeps R (a >>= f) := by
  intro w
  have hfirst := ha w
  rw [on_bind]
  rcases hon : a.on w with ⟨_ | x, w'⟩ <;> rw [hon] at hfirst
  · exact hfirst
  · exact hR.trans hfirst (hf x w')

/-! ### How actions fail -/

/-- Whatever the machine is, a failure that the action ends by is one of these. -/
structure FailsWith (P : Failure → Prop) (a : Action OnMachine α) : Prop where
  holds : ∀ w f, (a.on w).1 = .error (.failure f) → P f

variable {P : Failure → Prop}

theorem FailsWith.of_on {a : Action OnMachine α} (ha : FailsWith P a) {f : Failure}
    {w w' : Machine} (hon : a.on w = (.error (.failure f), w')) : P f :=
  ha.holds w f (congrArg Prod.fst hon)

theorem failsWith_pure (x : α) : FailsWith P (pure x : Action OnMachine α) := by
  constructor
  intro w f h
  simp at h

theorem failsWith_fail {f : Failure} (hf : P f) : FailsWith P (fail f : Action OnMachine α) := by
  constructor
  intro w f' h
  cases h
  exact hf

theorem failsWith_crash (c : Crash) : FailsWith P (crash c : Action OnMachine α) := by
  constructor
  intro w f h
  simp at h

theorem failsWith_lift (x : OnMachine α) : FailsWith P (liftM x : Action OnMachine α) := by
  constructor
  intro w f h
  simp at h

theorem failsWith_bind {a : Action OnMachine α} {g : α → Action OnMachine β} (ha : FailsWith P a)
    (hg : ∀ x, FailsWith P (g x)) : FailsWith P (a >>= g) := by
  constructor
  intro w f h
  rw [on_bind] at h
  rcases hon : a.on w with ⟨e | x, w'⟩ <;> rw [hon] at h
  · cases h
    exact ha.of_on hon
  · exact (hg x).holds w' f h

end Action

end DeployScript
